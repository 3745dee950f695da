import ShaderRecovery.Dxbc.Compiled
import ShaderRecovery.Hlsl.Binding

/-!
# Decoded programs

The decoded form of a vertex or pixel token program: its declarations and its
instructions in program order, with the operands spelled out as register
files, indices, swizzles, masks and modifiers. The stage's signatures travel
with it, and binding metadata, once applied, names its constant buffer
members and textures.
-/

namespace ShaderRecovery

/-- The two stages rendered as functions. -/
inductive FunctionStage where
  | vertex
  | fragment
  deriving DecidableEq, Repr

namespace FunctionStage

/-- Vertex programs become vertex functions and pixel programs fragment
functions; no other stage is rendered. -/
def ofStage? : Stage → Option FunctionStage
  | .vertex => some .vertex
  | .pixel => some .fragment
  | _ => none

end FunctionStage

/-- Dimension of a declared resource. -/
inductive ResourceDimension where
  | unknown
  | buffer
  | texture1D
  | texture2D
  | texture2DMs
  | texture3D
  | textureCube
  | texture1DArray
  | texture2DArray
  | texture2DMsArray
  | textureCubeArray
  deriving DecidableEq, Repr

namespace ResourceDimension

def ofCode : Nat → ResourceDimension
  | 1 => buffer
  | 2 => texture1D
  | 3 => texture2D
  | 4 => texture2DMs
  | 5 => texture3D
  | 6 => textureCube
  | 7 => texture1DArray
  | 8 => texture2DArray
  | 9 => texture2DMsArray
  | 10 => textureCubeArray
  | _ => unknown

def name : ResourceDimension → String
  | unknown => "Unknown"
  | buffer => "Buffer"
  | texture1D => "Texture1D"
  | texture2D => "Texture2D"
  | texture2DMs => "Texture2DMs"
  | texture3D => "Texture3D"
  | textureCube => "TextureCube"
  | texture1DArray => "Texture1DArray"
  | texture2DArray => "Texture2DArray"
  | texture2DMsArray => "Texture2DMsArray"
  | textureCubeArray => "TextureCubeArray"

/-- Components of a sampling coordinate. -/
def coordWidth : ResourceDimension → Nat
  | buffer | texture1D => 1
  | texture3D | textureCube | texture2DArray | texture2DMsArray => 3
  | textureCubeArray => 4
  | texture1DArray | texture2D | texture2DMs | unknown => 2

end ResourceDimension

/-- A declaration of the program. -/
inductive Decl where
  | temps (count : Nat)
  | indexableTemp (array len components : Nat)
  | constantBuffer (slot registers : Nat)
  | resource (slot : Nat) (dimension : ResourceDimension)
  | sampler (slot : Nat)
  | input (register : Nat) (mask : Nat)
  | output (register : Nat) (mask : Nat)
  | globalFlags (flags : Nat)
  | customData (dataClass lenDwords : Nat)
  | unknown (opcode : Nat)
  deriving DecidableEq, Repr

/-- Register files an operand can name. -/
inductive RegFile where
  | temp
  | input
  | output
  | outputDepth
  | indexableTemp (array : Nat)
  | null
  deriving DecidableEq, Repr

/-- An index taken from one component of another register. -/
structure RelativeIndex where
  file : RegFile
  index : Nat
  component : Nat
  deriving DecidableEq, Repr

/-- A register index: an immediate, optionally plus a relative part. -/
structure OperandIndex where
  imm : Nat
  relative : Option RelativeIndex
  deriving DecidableEq, Repr

def OperandIndex.ofImm (imm : Nat) : OperandIndex := ⟨imm, none⟩

structure RegisterRef where
  file : RegFile
  index : OperandIndex
  deriving DecidableEq, Repr

/-- A four-lane swizzle; each lane selects component 0 to 3. -/
structure Swizzle where
  x : Nat
  y : Nat
  z : Nat
  w : Nat
  deriving DecidableEq, Repr

namespace Swizzle

def identity : Swizzle := ⟨0, 1, 2, 3⟩

def replicate (c : Nat) : Swizzle := ⟨c, c, c, c⟩

/-- The component selected by lane `l`, taken modulo four. -/
def lane (s : Swizzle) (l : Nat) : Nat :=
  match l % 4 with
  | 0 => s.x
  | 1 => s.y
  | 2 => s.z
  | _ => s.w

end Swizzle

/-- Source operand modifiers. -/
inductive Modifier where
  | none
  | neg
  | abs
  | absNeg
  deriving DecidableEq, Repr

/-- The written lanes of a destination, in x, y, z, w order. -/
def maskLanes (mask : Nat) : List Nat := (List.range 4).filter fun c => mask / Nat.pow 2 c % 2 = 1

structure Dst where
  reg : RegisterRef
  mask : Nat
  saturate : Bool
  deriving DecidableEq, Repr

inductive SrcKind where
  | register (reg : RegisterRef)
  | constantBuffer (slot : Nat) (reg : OperandIndex)
  | immediateConstantBuffer (reg : OperandIndex)
  /-- Four 32-bit immediates. -/
  | immediate (a b c d : UInt32)
  deriving DecidableEq, Repr

structure Src where
  kind : SrcKind
  swizzle : Swizzle
  modifier : Modifier
  deriving DecidableEq, Repr

structure TextureRef where
  slot : Nat
  /-- Applied to the fetched texel. -/
  swizzle : Swizzle
  deriving DecidableEq, Repr

inductive SampleLevel where
  | implicit
  | lod (level : Src)
  | bias (bias : Src)
  deriving DecidableEq, Repr

inductive UnaryOp where
  | mov | rcp | rsq | sqrt | frc | exp | log | roundNe | roundNi | roundPi | roundZ
  | ftoi | ftou | itof | utof | bitNot | ineg | derivRtx | derivRty
  deriving DecidableEq, Repr

inductive BinaryOp where
  | add | mul | div | min | max | lt | ge | eq | ne
  | iadd | ieq | ine | ilt | ige | ult | uge | imin | imax | umin | umax
  | bitAnd | bitOr | bitXor | ishl | ishr | ushr
  deriving DecidableEq, Repr

/-- An executable instruction. -/
inductive Instruction where
  | unary (op : UnaryOp) (dst : Dst) (src : Src)
  | binary (op : BinaryOp) (dst : Dst) (a b : Src)
  /-- `a * b + c`. -/
  | mad (dst : Dst) (a b c : Src)
  | movc (dst : Dst) (cond a b : Src)
  /-- Dot product over the first `width` lanes. -/
  | dot (width : Nat) (dst : Dst) (a b : Src)
  | sinCos (sin cos : Option Dst) (src : Src)
  | sample (dst : Dst) (coord : Src) (texture : TextureRef) (sampler : Nat) (level : SampleLevel)
  | load (dst : Dst) (coord : Src) (texture : TextureRef)
  | discard (cond : Src) (nonzero : Bool)
  | beginIf (cond : Src) (nonzero : Bool)
  | beginElse
  | endIf
  | beginLoop
  | endLoop
  | exitLoop
  | exitLoopIf (cond : Src) (nonzero : Bool)
  | nextIteration
  | ret
  /-- An opcode the decoded form does not model. -/
  | unknown (opcode : Nat)
  deriving DecidableEq, Repr

/-- A decoded vertex or fragment program. -/
structure ShaderIr where
  stage : FunctionStage
  major : Nat
  minor : Nat
  decls : List Decl
  instructions : List Instruction
  inputs : List SignatureEntry
  outputs : List SignatureEntry
  /-- Register names; `none` until metadata is applied. -/
  bindings : Option BindingMetadata
  deriving DecidableEq, Repr

namespace ShaderIr

/-- Temporaries declared by the first `temps` declaration, else none. -/
def tempCount (ir : ShaderIr) : Nat :=
  (ir.decls.findSome? fun | .temps n => some n | _ => none).getD 0

/-- Dimension of the first resource declared at a slot. -/
def resourceDimension? (ir : ShaderIr) (slot : Nat) : Option ResourceDimension :=
  ir.decls.findSome? fun
    | .resource s d => if s = slot then some d else none
    | _ => none

/-- The program with its registers named by `md`. -/
def withBindings (ir : ShaderIr) (md : BindingMetadata) : ShaderIr := { ir with bindings := some md }

end ShaderIr

end ShaderRecovery
