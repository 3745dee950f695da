import ShaderRecovery.Asset.SubProgram
import ShaderRecovery.Hlsl.Session
import ShaderRecovery.Hlsl.Writer

/-!
# Text of a sub-program

A sub-program is exported as its keyword blocks followed by its program text
in double quotes. What the program text is depends on the program type:
GLSL and console programs are their code as text, Metal programs their source
after the entry name, DX10/DX11 vertex and pixel programs are decompiled to
HLSL, and other DirectX programs and every other type get a one-line note.

A decompiled program declares its input and output structures, then the
parameters it reads, each name once, then the decompiled function.

Principal results: `dxbcOffset_le` (the container offset found lies within
the code) and `declare_seen` (a name is declared at most once); the
declarations as a whole are stated in
`SubProgram.declarations_unique_and_complete`.
-/

namespace ShaderRecovery

/-- Indentation of decompiled text: the width of one level, and the levels of
declarations and of the function body. -/
structure TextLayout where
  indentWidth : Nat
  declarationDepth : Nat
  bodyDepth : Nat
  deriving DecidableEq, Repr

namespace TextLayout

def default : TextLayout := ⟨4, 3, 4⟩

end TextLayout

namespace SubProgram

/-- Where the compiled container starts in DirectX program code: after a
header of 6 bytes, or of 38 when the first byte, a header version, is at least 2. -/
def headerLength (code : List UInt8) : Nat := if code.headD 0 ≥ 2 then 38 else 6

/-- The start of the compiled container, if the code is longer than its header. -/
def dxbcOffset (code : List UInt8) : Except AssetError Nat :=
  if headerLength code > code.length then .error (.headerOutOfRange (headerLength code) code.length)
  else .ok (headerLength code)

theorem dxbcOffset_le (code : List UInt8) (n : Nat) (h : dxbcOffset code = .ok n) :
    n ≤ code.length := by
  unfold dxbcOffset at h
  split at h
  · cases h
  · cases h
    omega

/-- A line writer with the names declared so far. -/
structure Declarations where
  w : LineWriter
  seen : List String

namespace Declarations

/-- Writes a declaration unless its name was declared before. -/
def declare (d : Declarations) (name text : String) : Declarations :=
  if name ∈ d.seen then d else ⟨d.w.line text, name :: d.seen⟩

theorem declare_seen (d : Declarations) (name text : String) (h : name ∈ d.seen) :
    d.declare name text = d := by
  simp [declare, h]

def numeric (d : Declarations) (ps : List NumericParam) : Declarations :=
  ps.foldl (fun d p => d.declare p.name p.declaration) d

/-- A constant buffer's parameters; a buffer not named as global is wrapped
in `CBUFFER_START`/`CBUFFER_END`, also when nothing in it is new. -/
def buffer (d : Declarations) (g : ParamGroup) : Declarations :=
  if g.isGlobal then d.numeric g.numeric
  else
    let d : Declarations := ⟨(d.w.line ("CBUFFER_START(" ++ g.name ++ ")")).indent, d.seen⟩
    let d := d.numeric g.numeric
    ⟨d.w.dedent.line "CBUFFER_END", d.seen⟩

def comment (d : Declarations) (s : String) : Declarations := ⟨d.w.line s, d.seen⟩

/-- The loose globals and the global buffer, the named buffers, then the
textures. -/
def all (d : Declarations) (t : ParameterTable) (label : String) : Declarations :=
  let d := (d.comment ("// $Globals ConstantBuffers for " ++ label ++ " Shader")).numeric t.globalParams
  let d := match t.globalBuffer? with
    | some g => d.buffer g
    | none => d
  let d := d.comment ("// Custom ConstantBuffers for " ++ label ++ " Shader")
  let d := t.constantBuffers.foldl (fun d g => (d.comment ("// groupName: " ++ g.name)).buffer g) d
  let d := d.comment ("// Texture params for " ++ label ++ " Shader")
  t.textures.foldl (fun d x => d.declare x.name x.declaration) d

end Declarations

/-- Writes lines in order. -/
def lines (w : LineWriter) (ls : List String) : LineWriter := ls.foldl LineWriter.line w

/-- The decompiled text of a DX10/DX11 vertex or pixel program, quoted. -/
def decompiledText (sp : SubProgram) (stage : Stage) (layout : TextLayout) :
    Except AssetError String := do
  let offset ← dxbcOffset sp.code
  let compiled ← match CompiledShader.parse (sp.code.drop offset) with
    | .ok c => pure c
    | .error e => throw (.decompile (.container e))
  let w := LineWriter.create layout.declarationDepth layout.indentWidth
  let vertex := stage == .vertex
  let w := if vertex then
      let w := lines w ["#pragma vertex vert", "struct " ++ Naming.vertexInputStruct, "\x7b"]
      let w := lines w.indent (compiled.inputs.map fun e =>
        " " ++ Naming.inputField e ++ " : " ++ Naming.semanticWithIndex e ++ ";")
      lines w.dedent ["\x7d;", "struct " ++ Naming.vertToFragStruct]
    else lines w ["#pragma fragment frag", "struct " ++ Naming.fragmentOutputStruct]
  let facing := compiled.inputs.any (·.semanticName == Naming.facingSemantic)
  let signature := if vertex then
      Naming.vertToFragStruct ++ " vert(" ++ Naming.vertexInputStruct ++ " " ++ Naming.vertexInputName ++ ")"
    else
      Naming.fragmentOutputStruct ++ " frag(" ++ Naming.vertToFragStruct ++ " " ++
        Naming.fragmentInputName ++ (if facing then ", float facing: VFACE" else "") ++ ")"
  let w := lines (w.line "\x7b").indent (compiled.outputs.map fun e =>
    Naming.typeName e ++ " " ++ Naming.outputField e ++ " : " ++ Naming.semanticWithIndex e ++ ";")
  let w := w.dedent.line "\x7d;"
  let w := (Declarations.all ⟨w, []⟩ sp.parameters (if vertex then "Vertex" else "Fragment")).w
  let w := lines w ["", "// Keywords: " ++ String.join (sp.allKeywords.map (" " ++ ·)), signature, "\x7b"]
  let ir ← match ShaderIr.build compiled stage with
    | .ok ir => pure ir
    | .error e => throw (.decompile (.ofBuild e))
  let ir := if sp.parameters.bufferBindings.isEmpty then ir
    else ir.withBindings sp.parameters.bindingMetadata
  let w := lines (w.raw (ir.emit layout.bodyDepth layout.indentWidth)) ["\x7d", "ENDCG"]
  return "\"// " ++ sp.programType.name ++ "\n  " ++ w.text ++ "\""

/-- The word that marks Metal code with a header. -/
def metalMagic : UInt32 := 0xf00dcafe

/-- Metal source: the text after the NUL-ended entry name, which follows the
header when the code starts with the Metal marker. -/
def metalSource (code : List UInt8) : Except AssetError String :=
  let reader : ByteReader Nat := do
    if (← ByteReader.u32) == metalMagic then ByteReader.seek (← ByteReader.len)
    let _ ← ByteReader.cstring
    ByteReader.position
  match (reader.run (Cursor.ofBytes code)).1 with
  | .ok pos => .ok (Utf8.decodeLossy (code.drop pos))
  | .error e => .error e

/-- Whether a program type is GLSL or console code kept as text. -/
def isTextCode : ProgramType → Bool
  | .glLegacy | .gles31Aep | .gles31 | .gles3 | .gles | .glCore32 | .glCore41 | .glCore43
  | .consoleVS | .consoleFS | .consoleHS | .consoleDS | .consoleGS => true
  | _ => false

/-- Whether a program type is DirectX code that is not decompiled. -/
def isOpaqueDirectX : ProgramType → Bool
  | .dx9VertexSM20 | .dx9VertexSM30 | .dx9PixelSM20 | .dx9PixelSM30
  | .dx11GeometrySM40 | .dx11GeometrySM50 | .dx11HullSM50 | .dx11DomainSM50 => true
  | _ => false

/-- The program text by program type. -/
def programText (sp : SubProgram) (layout : TextLayout) : Except AssetError String :=
  match sp.programType.decompileStage? with
  | some stage => sp.decompiledText stage layout
  | none =>
    if isTextCode sp.programType then .ok (Utf8.decodeLossy sp.code)
    else if isOpaqueDirectX sp.programType then .ok "// shader disassembly not supported on DXBC"
    else if sp.programType == .metalVS || sp.programType == .metalFS then metalSource sp.code
    else .ok ("//shader disassembly not supported on " ++ sp.programType.name)

/-- `label { "k" ... }` and a line feed. -/
def keywordBlock (label : String) (ks : List String) : String :=
  label ++ " \x7b " ++ String.join (ks.map fun k => "\"" ++ k ++ "\" ") ++ "\x7d\n"

/-- The keyword blocks, then the program text in quotes; no program text for
empty code. -/
def text (sp : SubProgram) (layout : TextLayout) : Except AssetError String := do
  let globals := if sp.keywords.isEmpty then "" else keywordBlock "Keywords" sp.keywords
  let locals := match sp.localKeywords with
    | some ks => if ks.isEmpty then "" else keywordBlock "Local Keywords" ks
    | none => ""
  let text ← if sp.code.isEmpty then pure "" else sp.programText layout
  return globals ++ locals ++ "\"" ++ text ++ "\""

end SubProgram

end ShaderRecovery
