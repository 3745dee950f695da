import ShaderRecovery.Bytecode.Decode
import ShaderRecovery.Hlsl.Naming
import ShaderRecovery.Hlsl.Writer
import ShaderRecovery.Float.Text
import ShaderRecovery.Text.Hex

/-!
# HLSL function bodies

Renders the body of the vertex or fragment function of a decoded program.
Registers are read and written through the function's structs: inputs as
fields of `v` or `inp`, outputs as fields of `o`, temporaries as `tmpN`. A
packed register holds several signature entries; each lane belongs to the
first entry of the register whose mask has that lane (`signatureGroups`), so
an access is split by owner and each part names its owner's field with the
owner's own lanes. Constant buffer reads name the bound member when binding
metadata resolves all their lanes, and textures are named by their binding.

Control flow is structured: `if`, `else` and loops open and close braces, and
the writer's depth follows the nesting.

Principal result: `signatureGroups_lanes` (every lane position lands in
exactly one group, and the positions of the groups together are those of the
lanes); the text of a signature access is stated in
`Emit.signature_lanes_split`.
-/

namespace ShaderRecovery

namespace Emit

open Naming

/-- Component letters, lanes taken modulo four. -/
def letters (comps : List Nat) : String :=
  String.ofList (comps.map fun c =>
    match c % 4 with
    | 0 => 'x'
    | 1 => 'y'
    | 2 => 'z'
    | _ => 'w')

/-- `scalar` with the component count when there are several. -/
def vectorType (scalar : String) (n : Nat) : String :=
  if n > 1 then scalar ++ toString n else scalar

/-- Text of a 32-bit immediate: small integers are stored as subnormal bit
patterns and print as those integers, other finite values as floats, and the
rest as their bits. -/
def literal (bits : UInt32) : String :=
  let x : Binary32 := ⟨bits⟩
  if x.isSubnormal then toString bits.toNat
  else if x.isFinite then x.render FloatStyle.literal
  else "asfloat(0x" ++ NumText.hex 8 bits.toNat ++ ")"

def applyModifier (e : String) : Modifier → String
  | .none => e
  | .neg => "-" ++ e
  | .abs => "abs(" ++ e ++ ")"
  | .absNeg => "-abs(" ++ e ++ ")"

/-- Output registers are read and written through the output signature. -/
def isOutputFile : RegFile → Bool
  | .output | .outputDepth => true
  | _ => false

def inputPrefix (ir : ShaderIr) : String :=
  match ir.stage with
  | .vertex => vertexInputName
  | .fragment => fragmentInputName

def entries (ir : ShaderIr) (file : RegFile) : List SignatureEntry :=
  if isOutputFile file then ir.outputs else ir.inputs

def filePrefix (ir : ShaderIr) (file : RegFile) : String :=
  if isOutputFile file then outputName else inputPrefix ir

def fieldName (file : RegFile) (e : SignatureEntry) : String :=
  if isOutputFile file then outputField e else inputField e

/-- Bit `c` of a mask. -/
def hasBit (mask c : Nat) : Bool := mask / Nat.pow 2 c % 2 = 1

/-- Index of the lowest set bit of a byte (eight for zero). -/
def lowestBit (mask : Nat) : Nat :=
  ((List.range 8).find? fun c => hasBit mask c).getD 8

/-- The first entry, with its position, of register `r` whose mask has lane `c`. -/
def owner? (es : List SignatureEntry) (r c : Nat) : Option (Nat × SignatureEntry) :=
  go es 0
where
  go : List SignatureEntry → Nat → Option (Nat × SignatureEntry)
    | [], _ => none
    | e :: es, i =>
      if e.register.toNat = r ∧ hasBit e.mask.toNat c then some (i, e) else go es (i + 1)

/-- Lanes of one access that share an owner: the owner's own components, and
the positions of the lanes in the access. -/
structure Group where
  owner : Option (Nat × SignatureEntry)
  locals : List Nat
  positions : List Nat
  deriving Repr

/-- Owners are compared by position in the signature. -/
def sameOwner : Option (Nat × SignatureEntry) → Option (Nat × SignatureEntry) → Bool
  | none, none => true
  | some (i, _), some (j, _) => i == j
  | _, _ => false

/-- Adds one lane to the group of its owner, or opens a group at the end. -/
def addLane (owner : Option (Nat × SignatureEntry)) (loc pos : Nat) : List Group → List Group
  | [] => [⟨owner, [loc], [pos]⟩]
  | g :: gs =>
    if sameOwner g.owner owner then { g with locals := g.locals ++ [loc], positions := g.positions ++ [pos] } :: gs
    else g :: addLane owner loc pos gs

/-- Groups the lanes `comps` of register `r` by owner, groups in order of
their first lane. -/
def signatureGroups (es : List SignatureEntry) (r : Nat) (comps : List Nat) : List Group :=
  go comps 0 []
where
  go : List Nat → Nat → List Group → List Group
    | [], _, gs => gs
    | c :: cs, pos, gs =>
      let owner := owner? es r c
      let loc := match owner with
        | some (_, e) => c - lowestBit e.mask.toNat
        | none => c
      go cs (pos + 1) (addLane owner loc pos gs)

theorem addLane_positions (owner : Option (Nat × SignatureEntry)) (loc pos : Nat) (gs : List Group) :
    ((addLane owner loc pos gs).map Group.positions).flatten.Perm
      ((gs.map Group.positions).flatten ++ [pos]) := by
  induction gs with
  | nil => simp [addLane]
  | cons g gs ih =>
    unfold addLane
    split
    · simp only [List.map_cons, List.flatten_cons, List.append_assoc]
      exact List.Perm.append_left _ (List.perm_append_comm)
    · simp only [List.map_cons, List.flatten_cons, List.append_assoc]
      exact List.Perm.append_left _ ih

theorem signatureGroups_lanes (es : List SignatureEntry) (r : Nat) (comps : List Nat) :
    ((signatureGroups es r comps).map Group.positions).flatten.Perm (List.range comps.length) := by
  suffices h : ∀ (cs : List Nat) (pos : Nat) (gs : List Group),
      ((signatureGroups.go es r cs pos gs).map Group.positions).flatten.Perm
        ((gs.map Group.positions).flatten ++ (List.range' pos cs.length)) by
    simpa [signatureGroups, List.range_eq_range'] using h comps 0 []
  intro cs
  induction cs with
  | nil => intro pos gs; simp [signatureGroups.go]
  | cons c cs ih =>
    intro pos gs
    simp only [signatureGroups.go, List.length_cons, List.range'_succ]
    refine (ih (pos + 1) _).trans ?_
    rw [show pos :: List.range' (pos + 1) cs.length = [pos] ++ List.range' (pos + 1) cs.length from rfl,
      ← List.append_assoc]
    exact List.Perm.append_right _ (addLane_positions _ _ _ gs)

/-- Field of the first output named `SV_Depth` in any case, else `depth`. -/
def depthField (ir : ShaderIr) : String :=
  ((ir.outputs.find? fun e => asciiLower e.semanticName == "sv_depth").map outputField).getD "depth"

/-- A read of lanes `comps` of signature register `r`: one field when a
single owner has them all, else a vector gathered lane by lane. -/
def signatureRead (ir : ShaderIr) (file : RegFile) (r : Nat) (comps : List Nat) : String :=
  let pre := filePrefix ir file
  let render : Option (Nat × SignatureEntry) → List Nat → String := fun owner locs =>
    match owner with
    | some (_, e) =>
      if e.semanticName = facingSemantic then facingName
      else pre ++ "." ++ fieldName file e ++ "." ++ letters locs
    | none => pre ++ ".v" ++ toString r ++ "." ++ letters locs
  match signatureGroups (entries ir file) r comps with
  | [g] => render g.owner g.locals
  | groups =>
    let part : Nat → String := fun p =>
      (groups.findSome? fun g =>
        (g.positions.idxOf? p).bind fun k => (g.locals[k]?).map fun loc => render g.owner [loc]).getD ""
    vectorType "float" comps.length ++ "(" ++ ", ".intercalate ((List.range comps.length).map part) ++ ")"

/-- A read of a register with an immediate index. -/
def plainRead (ir : ShaderIr) (file : RegFile) (index : Nat) (comps : List Nat) : String :=
  match file with
  | .temp => tempPrefix ++ toString index ++ "." ++ letters comps
  | .indexableTemp array => "x" ++ toString array ++ "[" ++ toString index ++ "]." ++ letters comps
  | .input | .output => signatureRead ir file index comps
  | .outputDepth => outputName ++ "." ++ depthField ir
  | .null => "0"

/-- The component a relative index is taken from. -/
def relativeExpr (ir : ShaderIr) (rel : RelativeIndex) : String :=
  plainRead ir rel.file rel.index [rel.component]

/-- An index: the immediate, the relative part, or `rel + imm`. -/
def indexExpr (ir : ShaderIr) (i : OperandIndex) : String :=
  match i.relative with
  | none => toString i.imm
  | some rel => if i.imm = 0 then relativeExpr ir rel else relativeExpr ir rel ++ " + " ++ toString i.imm

def registerRead (ir : ShaderIr) (reg : RegisterRef) (comps : List Nat) : String :=
  match reg.file with
  | .indexableTemp array => "x" ++ toString array ++ "[" ++ indexExpr ir reg.index ++ "]." ++ letters comps
  | file => plainRead ir file reg.index.imm comps

/-- A bound constant: the member, with a row subscript for arrays and
matrices (keeping a relative index), bare for a one-lane scalar. -/
def formatConstant (ir : ShaderIr) (a : ConstantAccess) (reg : OperandIndex) : String :=
  let m := a.member
  let sw := letters a.components
  if m.isIndexed then
    let row := match reg.relative with
      | none => toString a.row
      | some rel => if a.row = 0 then relativeExpr ir rel else relativeExpr ir rel ++ " + " ++ toString a.row
    m.name ++ "[" ++ row ++ "]." ++ sw
  else if m.isScalar ∧ a.components.length = 1 then m.name
  else m.name ++ "." ++ sw

def constantRead (ir : ShaderIr) (slot : Nat) (reg : OperandIndex) (comps : List Nat) : String :=
  let raw := "cb" ++ toString slot ++ "[" ++ indexExpr ir reg ++ "]." ++ letters comps
  match ir.bindings with
  | some md =>
    match md.resolveConstant slot reg.imm comps with
    | some a => formatConstant ir a reg
    | none => raw
  | none => raw

/-- Immediate `c` of four, taken modulo four. -/
def pick (a b c d : UInt32) (i : Nat) : UInt32 :=
  match i % 4 with
  | 0 => a
  | 1 => b
  | 2 => c
  | _ => d

def immediateExpr (a b c d : UInt32) (comps : List Nat) : String :=
  match comps.map fun i => literal (pick a b c d i) with
  | [single] => single
  | parts => vectorType "float" parts.length ++ "(" ++ ", ".intercalate parts ++ ")"

/-- A source operand read for the given destination lanes. -/
def srcExpr (ir : ShaderIr) (s : Src) (lanes : List Nat) : String :=
  let comps := lanes.map s.swizzle.lane
  let e := match s.kind with
    | .register reg => registerRead ir reg comps
    | .constantBuffer slot reg => constantRead ir slot reg comps
    | .immediateConstantBuffer reg => "icb[" ++ indexExpr ir reg ++ "]." ++ letters comps
    | .immediate a b c d => immediateExpr a b c d comps
  applyModifier e s.modifier

def textureName (ir : ShaderIr) (t : TextureRef) : String :=
  let raw := "t" ++ toString t.slot
  match ir.bindings with
  | some md => ((md.texture? t.slot).map TextureBinding.name).getD raw
  | none => raw

/-- Assignment targets of a destination, each with the lanes it covers. -/
def dstTargets (ir : ShaderIr) (d : Dst) (lanes : List Nat) : List (String × List Nat) :=
  match d.reg.file with
  | .output | .input =>
    let file := d.reg.file
    let pre := filePrefix ir file
    (signatureGroups (entries ir file) d.reg.index.imm lanes).map fun g =>
      let target := match g.owner with
        | some (_, e) => pre ++ "." ++ fieldName file e ++ "." ++ letters g.locals
        | none => pre ++ ".o" ++ toString d.reg.index.imm ++ "." ++ letters g.locals
      (target, g.positions.map fun p => lanes.getD p 0)
  | .outputDepth => [(outputName ++ "." ++ depthField ir, lanes)]
  | _ => [(registerRead ir d.reg lanes, lanes)]

/-- Writes `target = value;` for each target of a destination; nothing for
an empty mask or the null register. -/
def assign (ir : ShaderIr) (w : LineWriter) (d : Dst) (value : List Nat → String) : LineWriter :=
  let lanes := maskLanes d.mask
  if lanes = [] ∨ d.reg.file = .null then w
  else
    (dstTargets ir d lanes).foldl (fun w (target, ls) =>
      let e := value ls
      let e := if d.saturate then "saturate(" ++ e ++ ")" else e
      w.line (target ++ " = " ++ e ++ ";")) w

def condition (ir : ShaderIr) (cond : Src) (nonzero : Bool) : String :=
  srcExpr ir cond [0] ++ (if nonzero then " != 0" else " == 0")

/-- The sampling call for a texture of the declared dimension (2D when the
slot is not declared). -/
def sampleCall (ir : ShaderIr) (t : TextureRef) (coord : Src) (level : SampleLevel) : String :=
  let name := textureName ir t
  let dim := (ir.resourceDimension? t.slot).getD .texture2D
  let width := dim.coordWidth
  let c := srcExpr ir coord (List.range width)
  let (func, arrayMacro) := match dim with
    | .texture1D => ("tex1D", false)
    | .texture3D => ("tex3D", false)
    | .textureCube => ("texCUBE", false)
    | .texture2DArray => ("UNITY_SAMPLE_TEX2DARRAY", true)
    | .textureCubeArray => ("UNITY_SAMPLE_TEXCUBEARRAY", true)
    | _ => ("tex2D", false)
  let padded : String → String := fun v =>
    "float4(" ++ c ++ String.join (List.replicate (3 - width) ", 0") ++ ", " ++ v ++ ")"
  match level with
  | .implicit => func ++ "(" ++ name ++ ", " ++ c ++ ")"
  | .lod l =>
    if arrayMacro then func ++ "_LOD(" ++ name ++ ", " ++ c ++ ", " ++ srcExpr ir l [0] ++ ")"
    else func ++ "lod(" ++ name ++ ", " ++ padded (srcExpr ir l [0]) ++ ")"
  | .bias b =>
    if !arrayMacro ∧ width < 4 then func ++ "bias(" ++ name ++ ", " ++ padded (srcExpr ir b [0]) ++ ")"
    else func ++ "(" ++ name ++ ", " ++ c ++ ")"

def unaryExpr (ir : ShaderIr) (op : UnaryOp) (s : Src) (lanes : List Nat) : String :=
  let a := srcExpr ir s lanes
  let n := lanes.length
  let call : String → String := fun f => f ++ "(" ++ a ++ ")"
  match op with
  | .mov => a
  | .rcp => "1.0 / " ++ a
  | .rsq => call "rsqrt"
  | .sqrt => call "sqrt"
  | .frc => call "frac"
  | .exp => call "exp2"
  | .log => call "log2"
  | .roundNe => call "round"
  | .roundNi => call "floor"
  | .roundPi => call "ceil"
  | .roundZ => call "trunc"
  | .ftoi => call (vectorType "int" n)
  | .ftou => call (vectorType "uint" n)
  | .itof | .utof => call (vectorType "float" n)
  | .bitNot => "~" ++ a
  | .ineg => "-" ++ a
  | .derivRtx => call "ddx"
  | .derivRty => call "ddy"

def binaryExpr (ir : ShaderIr) (op : BinaryOp) (x y : Src) (lanes : List Nat) : String :=
  let a := srcExpr ir x lanes
  let b := srcExpr ir y lanes
  let between : String → String := fun o => a ++ " " ++ o ++ " " ++ b
  match op with
  | .add | .iadd => between "+"
  | .mul => between "*"
  | .div => between "/"
  | .lt | .ilt | .ult => between "<"
  | .ge | .ige | .uge => between ">="
  | .eq | .ieq => between "=="
  | .ne | .ine => between "!="
  | .bitAnd => between "&"
  | .bitOr => between "|"
  | .bitXor => between "^"
  | .ishl => between "<<"
  | .ishr | .ushr => between ">>"
  | .min | .imin | .umin => "min(" ++ a ++ ", " ++ b ++ ")"
  | .max | .imax | .umax => "max(" ++ a ++ ", " ++ b ++ ")"

/-- The texel lanes a destination's lanes select. -/
def texel (t : TextureRef) (lanes : List Nat) : List Nat := lanes.map t.swizzle.lane

/-- Writes one instruction. -/
def instruction (ir : ShaderIr) (w : LineWriter) : Instruction → LineWriter
  | .unary op d s => assign ir w d fun ls => unaryExpr ir op s ls
  | .binary op d a b => assign ir w d fun ls => binaryExpr ir op a b ls
  | .mad d a b c => assign ir w d fun ls =>
    srcExpr ir a ls ++ " * " ++ srcExpr ir b ls ++ " + " ++ srcExpr ir c ls
  | .movc d c a b => assign ir w d fun ls =>
    srcExpr ir c ls ++ " ? " ++ srcExpr ir a ls ++ " : " ++ srcExpr ir b ls
  | .dot width d a b =>
    let ls := List.range width
    assign ir w d fun _ => "dot(" ++ srcExpr ir a ls ++ ", " ++ srcExpr ir b ls ++ ")"
  | .sinCos sin cos s =>
    let w := match sin with
      | some d => assign ir w d fun ls => "sin(" ++ srcExpr ir s ls ++ ")"
      | none => w
    match cos with
    | some d => assign ir w d fun ls => "cos(" ++ srcExpr ir s ls ++ ")"
    | none => w
  | .sample d coord t _ level =>
    let call := sampleCall ir t coord level
    assign ir w d fun ls => call ++ "." ++ letters (texel t ls)
  | .load d coord t =>
    let name := textureName ir t
    let width := ((ir.resourceDimension? t.slot).getD .texture2D).coordWidth
    let c := srcExpr ir coord (List.range (Nat.min (width + 1) 4))
    assign ir w d fun ls => name ++ ".Load(" ++ c ++ ")." ++ letters (texel t ls)
  | .discard c nz => w.line ("if (" ++ condition ir c nz ++ ") discard;")
  | .beginIf c nz => (w.line ("if (" ++ condition ir c nz ++ ") \x7b")).indent
  | .beginElse => (w.dedent.line "\x7d else \x7b").indent
  | .endIf | .endLoop => w.dedent.line "\x7d"
  | .beginLoop => (w.line "while (true) \x7b").indent
  | .exitLoop => w.line "break;"
  | .exitLoopIf c nz => w.line ("if (" ++ condition ir c nz ++ ") break;")
  | .nextIteration => w.line "continue;"
  | .ret => w.line ("return " ++ outputName ++ ";")
  | .unknown op => w.line ("// unsupported opcode 0x" ++ NumText.hex 2 op)

/-- The output struct variable, indexable temporaries and temporaries. -/
def locals (ir : ShaderIr) (w : LineWriter) : LineWriter :=
  let outStruct := match ir.stage with
    | .vertex => vertToFragStruct
    | .fragment => fragmentOutputStruct
  let w := w.line (outStruct ++ " " ++ outputName ++ ";")
  let w := ir.decls.foldl (fun w d =>
    match d with
    | .indexableTemp array len _ => w.line ("float4 x" ++ toString array ++ "[" ++ toString len ++ "];")
    | _ => w) w
  (List.range ir.tempCount).foldl (fun w i => w.line ("float4 " ++ tempPrefix ++ toString i ++ ";")) w

end Emit

namespace ShaderIr

/-- The function body at base depth `depth`, indented `width` spaces a level. -/
def emit (ir : ShaderIr) (depth width : Nat) : String :=
  (ir.instructions.foldl (Emit.instruction ir) (Emit.locals ir (LineWriter.create depth width))).text

end ShaderIr

end ShaderRecovery
