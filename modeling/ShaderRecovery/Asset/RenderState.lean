import ShaderRecovery.Asset.ColorMask
import ShaderRecovery.Asset.Keywords
import ShaderRecovery.Float.Text

/-!
# Render state of a pass

The fixed-function state of a pass: blending per render target, depth and
stencil tests, culling, depth offset, fog and lighting. Numeric settings are
single-precision values, compared with the engine defaults as IEEE values
(a NaN differs from every default, and `-0` equals `0`). A setting equal to its
default is left out of the text, while a missing depth clip counts as off; the
program id is always written.

How the text is put together from independent line groups, each left out at
its default, is stated in `RenderState.text_composes_omitting_defaults`.
-/

namespace ShaderRecovery

/-- Tags in their stored order. -/
abbrev TagMap := List (String × String)

namespace TagMap

/-- `Tags { "k" = "v" ... }` indented by `indent` spaces; nothing when there
are no tags. -/
def text (tags : TagMap) (indent : Nat) : String :=
  if tags.isEmpty then ""
  else
    String.ofList (List.replicate indent ' ') ++ "Tags \x7b " ++
      String.join (tags.map fun kv => "\"" ++ kv.1 ++ "\" = \"" ++ kv.2 ++ "\" ") ++ "\x7d\n"

end TagMap

/-- Blending of one render target. -/
structure BlendTarget where
  srcBlend : Binary32
  destBlend : Binary32
  srcBlendAlpha : Binary32
  destBlendAlpha : Binary32
  blendOp : Binary32
  blendOpAlpha : Binary32
  colorMask : Binary32
  deriving DecidableEq, Repr

namespace BlendTarget

/-- Source factor one, destination zero, addition, all channels written. -/
def default : BlendTarget :=
  ⟨.ofWhole 1, .zero, .ofWhole 1, .zero, .zero, .zero, .ofWhole 15⟩

/-- The lines of render target `index`. A target number is written on blend
lines unless this is target 0 of a state without separate blending; the
colour mask line always names its target. -/
def lines (b : BlendTarget) (index : Nat) (separate : Bool) : List String :=
  let target := if index ≠ 0 || separate then toString index ++ " " else ""
  let alphaDefault := b.srcBlendAlpha.isNat 1 && b.destBlendAlpha.isNat 0
  let factor := KeywordTable.blendFactor.keyword
  let op := KeywordTable.blendOp.keyword
  let blend :=
    if !b.srcBlend.isNat 1 || !b.destBlend.isNat 0 || !alphaDefault then
      ["  Blend " ++ target ++ factor b.srcBlend ++ " " ++ factor b.destBlend ++
        (if alphaDefault then ""
         else ", " ++ factor b.srcBlendAlpha ++ " " ++ factor b.destBlendAlpha)]
    else []
  let blendOp :=
    if !b.blendOp.isNat 0 || !b.blendOpAlpha.isNat 0 then
      ["  BlendOp " ++ target ++ op b.blendOp ++
        (if b.blendOpAlpha.isNat 0 then "" else ", " ++ op b.blendOpAlpha)]
    else []
  let mask := b.colorMask.toInt32Sat
  let maskLine :=
    if mask = 15 then []
    else
      let letters := if mask = 0 then "0" else (ColorMask.ofByte (UInt8.ofNat (mask % 16).toNat)).letters
      ["  ColorMask " ++ letters ++ " " ++ toString index]
  blend ++ blendOp ++ maskLine

end BlendTarget

/-- A stencil operation set: what happens on pass, fail and depth fail, and
the comparison. -/
structure StencilOp where
  pass : Binary32
  fail : Binary32
  zfail : Binary32
  comp : Binary32
  deriving DecidableEq, Repr

namespace StencilOp

/-- Keep in every case, compare always. -/
def default : StencilOp := ⟨.zero, .zero, .zero, .ofWhole 8⟩

def isDefault (s : StencilOp) : Bool :=
  s.pass.isNat 0 && s.fail.isNat 0 && s.zfail.isNat 0 && s.comp.isNat 8

def lines (s : StencilOp) (suffix : String) : List String :=
  ["   Comp" ++ suffix ++ " " ++ KeywordTable.compare.keyword s.comp,
   "   Pass" ++ suffix ++ " " ++ KeywordTable.stencilOp.keyword s.pass,
   "   Fail" ++ suffix ++ " " ++ KeywordTable.stencilOp.keyword s.fail,
   "   ZFail" ++ suffix ++ " " ++ KeywordTable.stencilOp.keyword s.zfail]

end StencilOp

/-- How fog is computed. -/
inductive FogMode where
  | unknown
  | disabled
  | linear
  | exp
  | exp2
  | other (raw : Int)
  deriving DecidableEq, Repr

namespace FogMode

def ofRaw : Int → FogMode
  | -1 => .unknown
  | 0 => .disabled
  | 1 => .linear
  | 2 => .exp
  | 3 => .exp2
  | n => .other n

/-- The word of a mode; empty for a mode the format does not know. -/
def word : FogMode → String
  | .disabled => "Off"
  | .linear => "Linear"
  | .exp => "Exp"
  | .exp2 => "Exp2"
  | .unknown | .other _ => ""

end FogMode

/-- The fixed-function state of a pass. -/
structure RenderState where
  name : String
  lod : Int
  tags : TagMap
  blendTargets : List BlendTarget
  separateBlend : Bool
  alphaToMask : Binary32
  /-- `none` in assets older than the setting. -/
  zclip : Option Binary32
  ztest : Binary32
  zwrite : Binary32
  culling : Binary32
  offsetFactor : Binary32
  offsetUnits : Binary32
  stencilRef : Binary32
  stencilReadMask : Binary32
  stencilWriteMask : Binary32
  stencilOp : StencilOp
  stencilOpFront : StencilOp
  stencilOpBack : StencilOp
  fogMode : FogMode
  fogColor : List Binary32
  fogDensity : Binary32
  fogStart : Binary32
  fogEnd : Binary32
  lighting : Bool
  gpuProgramId : Int
  deriving DecidableEq, Repr

namespace RenderState

/-- The engine defaults: eight default render targets, depth clip on, depth
test `LEqual`, depth writes on, back faces culled, stencil masks 255. -/
def default : RenderState where
  name := ""
  lod := 0
  tags := []
  blendTargets := List.replicate 8 BlendTarget.default
  separateBlend := false
  alphaToMask := .zero
  zclip := some (.ofWhole 1)
  ztest := .ofWhole 4
  zwrite := .ofWhole 1
  culling := .ofWhole 2
  offsetFactor := .zero
  offsetUnits := .zero
  stencilRef := .zero
  stencilReadMask := .ofWhole 255
  stencilWriteMask := .ofWhole 255
  stencilOp := StencilOp.default
  stencilOpFront := StencilOp.default
  stencilOpBack := StencilOp.default
  fogMode := .unknown
  fogColor := [.zero, .zero, .zero, .zero]
  fogDensity := .zero
  fogStart := .zero
  fogEnd := .zero
  lighting := false
  gpuProgramId := 0

/-- A value in shader text. -/
def num (x : Binary32) : String := x.render FloatStyle.plain

def stencilLines (s : RenderState) : List String :=
  let ops := [(s.stencilOp, ""), (s.stencilOpFront, "Front"), (s.stencilOpBack, "Back")]
  if !s.stencilRef.isNat 0 || !s.stencilReadMask.isNat 255 || !s.stencilWriteMask.isNat 255 ||
      ops.any (fun o => !o.1.isDefault) then
    ["  Stencil \x7b"] ++
    (if s.stencilRef.isNat 0 then [] else ["   Ref " ++ num s.stencilRef]) ++
    (if s.stencilReadMask.isNat 255 then [] else ["   ReadMask " ++ num s.stencilReadMask]) ++
    (if s.stencilWriteMask.isNat 255 then [] else ["   WriteMask " ++ num s.stencilWriteMask]) ++
    (ops.filter (fun o => !o.1.isDefault)).flatMap (fun o => o.1.lines o.2) ++
    ["  \x7d"]
  else []

def fogLines (s : RenderState) : List String :=
  let color := (List.range 4).map fun i => s.fogColor.getD i .zero
  let colorZero := color.all (·.isNat 0)
  let range := !s.fogStart.isNat 0 || !s.fogEnd.isNat 0
  if s.fogMode ≠ .unknown || !colorZero || !s.fogDensity.isNat 0 || range then
    ["  Fog \x7b"] ++
    (if s.fogMode ≠ .unknown then ["   Mode " ++ s.fogMode.word] else []) ++
    (if colorZero then [] else ["   Color (" ++ ",".intercalate (color.map num) ++ ")"]) ++
    (if s.fogDensity.isNat 0 then [] else ["   Density " ++ num s.fogDensity]) ++
    (if range then ["   Range " ++ num s.fogStart ++ ", " ++ num s.fogEnd] else []) ++
    ["  \x7d"]
  else []

/-- The render-state lines of a normal pass, each with its line feed. -/
def text (s : RenderState) : String :=
  let lines :=
    (if s.name.isEmpty then [] else ["  Name \"" ++ s.name ++ "\""]) ++
    (if s.lod = 0 then [] else ["  LOD " ++ toString s.lod])
  let afterTags :=
    (s.blendTargets.zipIdx.flatMap fun bi => bi.1.lines bi.2 s.separateBlend) ++
    (if s.alphaToMask.isPositive then ["  AlphaToMask On"] else []) ++
    (if s.zclip.any (·.isNat 1) then [] else ["  ZClip Off"]) ++
    (if s.ztest.isNat 4 then [] else ["  ZTest " ++ KeywordTable.ztest.keyword s.ztest]) ++
    (if s.zwrite.isNat 1 then [] else ["  ZWrite Off"]) ++
    (if s.culling.isNat 2 then [] else ["  Cull " ++ KeywordTable.cull.keyword s.culling]) ++
    (if s.offsetFactor.isNat 0 && s.offsetUnits.isNat 0 then []
     else ["  Offset " ++ num s.offsetFactor ++ ", " ++ num s.offsetUnits]) ++
    s.stencilLines ++ s.fogLines ++
    (if s.lighting then ["  Lighting On"] else []) ++
    ["  GpuProgramID " ++ toString s.gpuProgramId]
  let join := fun (ls : List String) => String.join (ls.map (· ++ "\n"))
  join lines ++ s.tags.text 2 ++ join afterTags

end RenderState

end ShaderRecovery
