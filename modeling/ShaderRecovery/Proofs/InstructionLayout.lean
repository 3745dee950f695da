import Mathlib
import ShaderRecovery.Proofs.OperandLayout

/-!
# Instructions of the token layout, written and read back

An instruction is an opcode token, the extended opcode tokens it announces,
and its operands one after the other, in the order its opcode fixes.
`InstructionForm` describes each instruction the decoder models, with its
operands as `OperandForm`s; `OpcodeWords` is an opcode token with its chain of
extended opcode tokens.

Principal result: `Instruction.decode_words` — decoding the words of an
instruction returns an instruction exactly when each operand has a type its
place takes (a register for a destination, a resource for a texture, ...),
and then the instruction of the IR operands of the forms, with the saturate
and test flags of the opcode token.
-/

namespace ShaderRecovery

/-! ## Opcode tokens -/

/-- An opcode token and the extended opcode tokens it announces. -/
structure OpcodeWords where
  token : UInt32
  extensions : List (Fin (2 ^ 31))
  announced : Opcode.isExtended token = !extensions.isEmpty

namespace OpcodeWords

/-- An extended opcode token: bits 0 to 30, and bit 31 when another follows. -/
def extensionWord (v : Fin (2 ^ 31)) (more : Bool) : UInt32 :=
  UInt32.ofNat (v + 2 ^ 31 * more.toNat)

def chainWords : List (Fin (2 ^ 31)) → List UInt32
  | [] => []
  | v :: vs => extensionWord v (!vs.isEmpty) :: chainWords vs

def words (o : OpcodeWords) : List UInt32 := o.token :: chainWords o.extensions

theorem skipExtended_chainWords {vs : List (Fin (2 ^ 31))} (hvs : vs ≠ []) (rest : List UInt32) :
    Instruction.skipExtended (chainWords vs ++ rest) = rest := by
  induction vs with
  | nil => exact absurd rfl hvs
  | cons v vs ih =>
    rw [chainWords, List.cons_append, Instruction.skipExtended, extensionWord,
      isExtended_ofNat v.isLt]
    cases vs with
    | nil => rfl
    | cons v' vs => exact ih (List.cons_ne_nil v' vs)

@[simp] theorem headD_words (o : OpcodeWords) (ws : List UInt32) : (o.words ++ ws).headD 0 = o.token :=
  rfl

/-- The operands start after the opcode token and its extended tokens. -/
theorem afterOpcode_words (o : OpcodeWords) (rest : List UInt32) :
    Instruction.afterOpcode (o.words ++ rest) = rest := by
  rw [words, List.cons_append, Instruction.afterOpcode, o.announced]
  cases hes : o.extensions with
  | nil => rfl
  | cons v vs => exact skipExtended_chainWords (List.cons_ne_nil v vs) rest

end OpcodeWords

/-! ## Instruction forms -/

namespace UnaryOp

/-- The opcode of a one-source operation. -/
def opcode : UnaryOp → Nat
  | mov => Opcode.mov
  | rcp => Opcode.rcp
  | rsq => Opcode.rsq
  | sqrt => Opcode.sqrt
  | frc => Opcode.frc
  | exp => Opcode.exp
  | log => Opcode.log
  | roundNe => Opcode.roundNe
  | roundNi => Opcode.roundNi
  | roundPi => Opcode.roundPi
  | roundZ => Opcode.roundZ
  | ftoi => Opcode.ftoi
  | ftou => Opcode.ftou
  | itof => Opcode.itof
  | utof => Opcode.utof
  | bitNot => Opcode.bitNot
  | ineg => Opcode.ineg
  | derivRtx => Opcode.derivRtx
  | derivRty => Opcode.derivRty

theorem unaryOp?_opcode (u : UnaryOp) : Instruction.unaryOp? u.opcode = some u := by
  cases u <;> rfl

end UnaryOp

namespace BinaryOp

/-- The opcode of a two-source operation. -/
def opcode : BinaryOp → Nat
  | add => Opcode.add
  | mul => Opcode.mul
  | div => Opcode.div
  | min => Opcode.min
  | max => Opcode.max
  | lt => Opcode.lt
  | ge => Opcode.ge
  | eq => Opcode.eq
  | ne => Opcode.ne
  | iadd => Opcode.iadd
  | ieq => Opcode.ieq
  | ine => Opcode.ine
  | ilt => Opcode.ilt
  | ige => Opcode.ige
  | ult => Opcode.ult
  | uge => Opcode.uge
  | imin => Opcode.imin
  | imax => Opcode.imax
  | umin => Opcode.umin
  | umax => Opcode.umax
  | bitAnd => Opcode.bitAnd
  | bitOr => Opcode.bitOr
  | bitXor => Opcode.bitXor
  | ishl => Opcode.ishl
  | ishr => Opcode.ishr
  | ushr => Opcode.ushr

theorem unaryOp?_opcode (b : BinaryOp) : Instruction.unaryOp? b.opcode = none := by
  cases b <;> rfl

theorem binaryOp?_opcode (b : BinaryOp) : Instruction.binaryOp? b.opcode = some b := by
  cases b <;> rfl

end BinaryOp

/-- The width of a dot product: `dp2`, `dp3` or `dp4`. -/
inductive DotWidth where
  | two
  | three
  | four
  deriving DecidableEq, Repr

namespace DotWidth

def lanes : DotWidth → Nat
  | two => 2
  | three => 3
  | four => 4

def opcode : DotWidth → Nat
  | two => Opcode.dp2
  | three => Opcode.dp3
  | four => Opcode.dp4

end DotWidth

/-- The level of detail of a sample: implicit, or an explicit level or bias
read from a last source. -/
inductive LevelForm where
  | implicit
  | lod (level : OperandForm IndexForm)
  | bias (bias : OperandForm IndexForm)

namespace LevelForm

def opcode : LevelForm → Nat
  | implicit => Opcode.sample
  | lod _ => Opcode.sampleLod
  | bias _ => Opcode.sampleBias

def operands : LevelForm → List (OperandForm IndexForm)
  | implicit => []
  | lod l => [l]
  | bias b => [b]

def toLevel? : LevelForm → Option SampleLevel
  | implicit => some .implicit
  | lod l => l.toSrc?.map .lod
  | bias b => b.toSrc?.map .bias

end LevelForm

/-- A modelled instruction, with its operands as the layout writes them. -/
inductive InstructionForm where
  | unary (op : UnaryOp) (dst src : OperandForm IndexForm)
  | binary (op : BinaryOp) (dst a b : OperandForm IndexForm)
  /-- `mad`, or `imad` when `integer`. -/
  | mad (integer : Bool) (dst a b c : OperandForm IndexForm)
  | movc (dst cond a b : OperandForm IndexForm)
  | dot (width : DotWidth) (dst a b : OperandForm IndexForm)
  | sinCos (sin cos src : OperandForm IndexForm)
  | sample (dst coord texture sampler : OperandForm IndexForm) (level : LevelForm)
  | load (dst coord texture : OperandForm IndexForm)
  | discard (cond : OperandForm IndexForm)
  | beginIf (cond : OperandForm IndexForm)
  | exitLoopIf (cond : OperandForm IndexForm)
  | beginElse
  | endIf
  | beginLoop
  | endLoop
  | exitLoop
  | nextIteration
  | ret

/-- A destination that may be the null register, which writes nothing. -/
def OperandForm.toOptionalDst? (f : OperandForm IndexForm) : Option (Option Dst) :=
  (f.toDst? false).map fun d => if d.reg.file = .null then none else some d

namespace InstructionForm

def opcode : InstructionForm → Nat
  | unary op .. => op.opcode
  | binary op .. => op.opcode
  | mad integer .. => if integer then Opcode.imad else Opcode.mad
  | movc .. => Opcode.movc
  | dot width .. => width.opcode
  | sinCos .. => Opcode.sinCos
  | sample _ _ _ _ level => level.opcode
  | load .. => Opcode.load
  | discard _ => Opcode.discard
  | beginIf _ => Opcode.beginIf
  | exitLoopIf _ => Opcode.exitLoopIf
  | beginElse => Opcode.beginElse
  | endIf => Opcode.endIf
  | beginLoop => Opcode.beginLoop
  | endLoop => Opcode.endLoop
  | exitLoop => Opcode.exitLoop
  | nextIteration => Opcode.nextIteration
  | ret => Opcode.ret

/-- The operands, in the order the layout writes them. -/
def operands : InstructionForm → List (OperandForm IndexForm)
  | unary _ d s => [d, s]
  | binary _ d a b => [d, a, b]
  | mad _ d a b c => [d, a, b, c]
  | movc d c a b => [d, c, a, b]
  | dot _ d a b => [d, a, b]
  | sinCos s c x => [s, c, x]
  | sample d coord t smp level => [d, coord, t, smp] ++ level.operands
  | load d coord t => [d, coord, t]
  | discard c => [c]
  | beginIf c => [c]
  | exitLoopIf c => [c]
  | _ => []

/-- The instruction a form stands for, when each operand has a type its place
takes; destinations saturate and conditions test for non-zero as the opcode
token says. -/
def toInstruction? (saturate nonzero : Bool) : InstructionForm → Option Instruction
  | unary op d s => return .unary op (← d.toDst? saturate) (← s.toSrc?)
  | binary op d a b => return .binary op (← d.toDst? saturate) (← a.toSrc?) (← b.toSrc?)
  | mad _ d a b c =>
    return .mad (← d.toDst? saturate) (← a.toSrc?) (← b.toSrc?) (← c.toSrc?)
  | movc d c a b =>
    return .movc (← d.toDst? saturate) (← c.toSrc?) (← a.toSrc?) (← b.toSrc?)
  | dot w d a b => return .dot w.lanes (← d.toDst? saturate) (← a.toSrc?) (← b.toSrc?)
  | sinCos s c x => return .sinCos (← s.toOptionalDst?) (← c.toOptionalDst?) (← x.toSrc?)
  | sample d coord t smp level =>
    return .sample (← d.toDst? saturate) (← coord.toSrc?) (← t.toTexture?) (← smp.toSampler?)
      (← level.toLevel?)
  | load d coord t => return .load (← d.toDst? saturate) (← coord.toSrc?) (← t.toTexture?)
  | discard c => return .discard (← c.toSrc?) nonzero
  | beginIf c => return .beginIf (← c.toSrc?) nonzero
  | exitLoopIf c => return .exitLoopIf (← c.toSrc?) nonzero
  | beginElse => some .beginElse
  | endIf => some .endIf
  | beginLoop => some .beginLoop
  | endLoop => some .endLoop
  | exitLoop => some .exitLoop
  | nextIteration => some .nextIteration
  | ret => some .ret

end InstructionForm

/-! ## Reading an instruction back -/

namespace Instruction

open Operand

/-- A reading followed by the rest of a decoding returns `b` exactly when the
form is read as some value from which the rest returns `b`. -/
theorem reading_bind_eq_ok {α β : Type} {f : OperandForm IndexForm} {x : Option α}
    {rest : List UInt32} {k : α × List UInt32 → Except OperandFault β} {b : β} :
    f.reading x rest >>= k = .ok b ↔ ∃ a, x = some a ∧ k (a, rest) = .ok b := by
  cases x <;> simp [ok_bind_eq, error_bind_eq]

theorem decode_words (w : InstructionForm) (o : OpcodeWords) (rest : List UInt32)
    (i : Instruction) :
    decode w.opcode (o.words ++ (w.operands.flatMap OperandForm.words ++ rest)) = .ok i ↔
      w.toInstruction? (Opcode.saturates o.token) (Opcode.testsNonzero o.token) = some i := by
  rw [decode, OpcodeWords.headD_words, o.afterOpcode_words]
  cases w
  case' mad integer d a b c => cases integer
  case' dot width d a b => cases width
  case' sample d coord t smp level => cases level
  -- the opcode selects the branch of its instruction
  all_goals first
    | rw [InstructionForm.opcode, UnaryOp.unaryOp?_opcode]
    | rw [InstructionForm.opcode, BinaryOp.unaryOp?_opcode, BinaryOp.binaryOp?_opcode]
    | simp +decide only [InstructionForm.opcode, DotWidth.opcode, LevelForm.opcode,
        Instruction.unaryOp?, Instruction.binaryOp?, reduceIte]
  -- and each operand is read as its form, in order
  all_goals simp [dst_words, src_words, texture_words, sampler_words, optionalDst,
    InstructionForm.operands, LevelForm.operands, InstructionForm.toInstruction?,
    LevelForm.toLevel?, OperandForm.toOptionalDst?, List.append_assoc, reading_bind_eq_ok,
    Option.bind_eq_some_iff, pure_eq_ok, ok_bind_eq, DotWidth.lanes, Opcode.dp2, Opcode.dp3,
    Opcode.dp4]

/-- Decoding inverts the token layout. The words of every operand form are read
back as exactly its raw operand, consuming them and nothing after, and as the
operand each reader makes of it, or refused as the form's type; the words of
every instruction form, whatever extended opcode tokens follow its opcode
token, decode to the instruction the form stands for, with the saturation and
test of the opcode token, and to no other. -/
theorem decoding_inverts_layout :
    (∀ (f : OperandForm IndexForm) (rest : List UInt32),
      rawOperand (f.words ++ rest) = .ok (f.raw, rest) ∧
      (∀ saturate, dst saturate (f.words ++ rest) = f.reading (f.toDst? saturate) rest) ∧
      src (f.words ++ rest) = f.reading f.toSrc? rest ∧
      texture (f.words ++ rest) = f.reading f.toTexture? rest ∧
      sampler (f.words ++ rest) = f.reading f.toSampler? rest) ∧
    ∀ (w : InstructionForm) (o : OpcodeWords) (rest : List UInt32) (i : Instruction),
      decode w.opcode (o.words ++ (w.operands.flatMap OperandForm.words ++ rest)) = .ok i ↔
        w.toInstruction? (Opcode.saturates o.token) (Opcode.testsNonzero o.token) = some i := by
  refine ⟨fun f rest => ⟨rawOperand_words f rest, fun saturate => ?_, src_words f rest,
    texture_words f rest, sampler_words f rest⟩, decode_words⟩
  exact dst_words f saturate rest

end Instruction

end ShaderRecovery
