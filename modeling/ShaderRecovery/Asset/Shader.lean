import ShaderRecovery.Asset.Blob
import ShaderRecovery.Asset.Property
import ShaderRecovery.Asset.RenderState
import ShaderRecovery.Asset.Selection

/-!
# Shaders and their ShaderLab text

A shader has a name, material properties, sub-shaders with their passes, and
optionally a fallback and a custom editor. A pass either renders with a render
state and program blocks of sub-program references per stage, uses a pass of
another shader, or grabs the screen into a texture.

Its text is a `Shader "name" { ... }` block. Each program block lists, for
every section the selection picks, the sub-program's text from the decoded
index of the section's platform.

Where the text layout reaches the ShaderLab text is stated in
`ProgramLibrary.shaderText_layout`.
-/

namespace ShaderRecovery

/-- Sub-program references per stage. -/
structure ProgramBlocks where
  vertex : List ProgramRef
  fragment : List ProgramRef
  geometry : List ProgramRef
  hull : List ProgramRef
  domain : List ProgramRef
  rayTracing : List ProgramRef
  deriving DecidableEq, Repr

namespace ProgramBlocks

/-- Stages in written order, with their program tags. -/
def stages (b : ProgramBlocks) : List (String × List ProgramRef) :=
  [("vp", b.vertex), ("fp", b.fragment), ("gp", b.geometry), ("hp", b.hull), ("dp", b.domain),
   ("rtp", b.rayTracing)]

end ProgramBlocks

/-- A pass of a sub-shader. -/
inductive Pass where
  | normal (state : RenderState) (programs : ProgramBlocks)
  | use (name : String)
  | grab (texture : Option String)
  deriving DecidableEq, Repr

structure SubShader where
  /-- 0 when not set. -/
  lod : Int
  tags : TagMap
  passes : List Pass
  deriving DecidableEq, Repr

/-- The parsed form of a shader. -/
structure ShaderSource where
  name : String
  properties : List Property
  subShaders : List SubShader
  fallback : Option String
  customEditor : Option String
  deriving DecidableEq, Repr

/-- What sections are written against: the asset's platforms, the decoded
index of each, and the layout of decompiled text. -/
structure ProgramLibrary where
  platforms : List Platform
  programs : List ProgramIndex
  layout : TextLayout

namespace ProgramLibrary

/-- The `SubProgram` sections of one stage's references. -/
def sectionsText (lib : ProgramLibrary) (refs : List ProgramRef) : Except AssetError String := do
  let sections ← Selection.select refs lib.platforms
  let texts ← sections.mapM fun s => do
    let index ← match lib.programs[s.platformIndex]? with
      | some p => pure p
      | none => throw (.missingSubProgram s.ref.blob)
    let text ← (← index.subProgram? s.ref.blob).text lib.layout
    return "SubProgram \"" ++ s.label ++ "\" \x7b\n" ++ text ++ "\n\x7d\n"
  return String.join texts

/-- The render state and the program blocks of a normal pass. -/
def normalPassText (lib : ProgramLibrary) (state : RenderState) (b : ProgramBlocks) :
    Except AssetError String := do
  let blocks ← (b.stages.filter fun st => !st.2.isEmpty).mapM fun st => do
    return "Program \"" ++ st.1 ++ "\" \x7b\n" ++ (← lib.sectionsText st.2) ++ "\x7d\n"
  return state.text ++ String.join blocks

def passText (lib : ProgramLibrary) : Pass → Except AssetError String
  | .use name => .ok (" UsePass \"" ++ name ++ "\"\n")
  | .grab tex =>
    let named := match tex with
      | some t => if t.isEmpty then "" else "  \"" ++ t ++ "\"\n"
      | none => ""
    .ok (" GrabPass \x7b\n" ++ named ++ "\x7d\n")
  | .normal state b => do
    return " Pass \x7b\n" ++ (← lib.normalPassText state b) ++ "\x7d\n"

def subShaderText (lib : ProgramLibrary) (s : SubShader) : Except AssetError String := do
  let passes ← s.passes.mapM lib.passText
  return "SubShader \x7b\n" ++ (if s.lod = 0 then "" else " LOD " ++ toString s.lod ++ "\n") ++
    s.tags.text 1 ++ String.join passes ++ "\x7d\n"

/-- A named line, left out when the name is missing or empty. -/
def namedLine (word : String) : Option String → String
  | some n => if n.isEmpty then "" else word ++ " \"" ++ n ++ "\"\n"
  | none => ""

/-- The whole `Shader` block, without a final line feed. -/
def shaderText (lib : ProgramLibrary) (s : ShaderSource) : Except AssetError String := do
  let props ← s.properties.mapM Property.text
  let subs ← s.subShaders.mapM lib.subShaderText
  return "Shader \"" ++ s.name ++ "\" \x7b\nProperties \x7b\n" ++ String.join props ++ "\x7d\n" ++
    String.join subs ++ namedLine "Fallback" s.fallback ++ namedLine "CustomEditor" s.customEditor ++
    "\x7d"

end ProgramLibrary

end ShaderRecovery
