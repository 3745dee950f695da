import ShaderRecovery.Bytecode.Operand

/-!
# Instruction and declaration decoding

The operands of an instruction follow its opcode token and any extended
opcode tokens. Each modelled opcode has a fixed operand list; an opcode the
decoded form does not model is kept by number. Declarations read their
operand, or their immediate words, the same way; a declaration that cannot be
read is kept by number too.

Principal result: `afterOpcode_length_le` (skipping the opcode tokens never
adds tokens); reading an instruction back from its words is stated in
`Instruction.decoding_inverts_layout`.
-/

namespace ShaderRecovery

namespace Instruction

open Operand

/-- Tokens after the opcode token and the extended opcode tokens that follow
a token with the extension bit. -/
def skipExtended : List UInt32 → List UInt32
  | [] => []
  | t :: ts => if Opcode.isExtended t then skipExtended ts else ts

def afterOpcode : List UInt32 → List UInt32
  | [] => []
  | t :: ts => if Opcode.isExtended t then skipExtended ts else ts

theorem skipExtended_length_le (ts : List UInt32) : (skipExtended ts).length ≤ ts.length := by
  induction ts with
  | nil => simp [skipExtended]
  | cons t ts ih =>
    rw [skipExtended]
    split
    · exact Nat.le_trans ih (Nat.le_succ _)
    · exact Nat.le_succ _

theorem afterOpcode_length_le (ts : List UInt32) : (afterOpcode ts).length ≤ ts.length := by
  cases ts with
  | nil => simp [afterOpcode]
  | cons t ts =>
    rw [afterOpcode]
    split
    · exact Nat.le_trans (skipExtended_length_le ts) (Nat.le_succ _)
    · exact Nat.le_succ _

def unaryOp? (op : Nat) : Option UnaryOp :=
  if op = Opcode.mov then some .mov
  else if op = Opcode.rcp then some .rcp
  else if op = Opcode.rsq then some .rsq
  else if op = Opcode.sqrt then some .sqrt
  else if op = Opcode.frc then some .frc
  else if op = Opcode.exp then some .exp
  else if op = Opcode.log then some .log
  else if op = Opcode.roundNe then some .roundNe
  else if op = Opcode.roundNi then some .roundNi
  else if op = Opcode.roundPi then some .roundPi
  else if op = Opcode.roundZ then some .roundZ
  else if op = Opcode.ftoi then some .ftoi
  else if op = Opcode.ftou then some .ftou
  else if op = Opcode.itof then some .itof
  else if op = Opcode.utof then some .utof
  else if op = Opcode.bitNot then some .bitNot
  else if op = Opcode.ineg then some .ineg
  else if op = Opcode.derivRtx then some .derivRtx
  else if op = Opcode.derivRty then some .derivRty
  else none

def binaryOp? (op : Nat) : Option BinaryOp :=
  if op = Opcode.add then some .add
  else if op = Opcode.mul then some .mul
  else if op = Opcode.div then some .div
  else if op = Opcode.min then some .min
  else if op = Opcode.max then some .max
  else if op = Opcode.lt then some .lt
  else if op = Opcode.ge then some .ge
  else if op = Opcode.eq then some .eq
  else if op = Opcode.ne then some .ne
  else if op = Opcode.iadd then some .iadd
  else if op = Opcode.ieq then some .ieq
  else if op = Opcode.ine then some .ine
  else if op = Opcode.ilt then some .ilt
  else if op = Opcode.ige then some .ige
  else if op = Opcode.ult then some .ult
  else if op = Opcode.uge then some .uge
  else if op = Opcode.imin then some .imin
  else if op = Opcode.imax then some .imax
  else if op = Opcode.umin then some .umin
  else if op = Opcode.umax then some .umax
  else if op = Opcode.bitAnd then some .bitAnd
  else if op = Opcode.bitOr then some .bitOr
  else if op = Opcode.bitXor then some .bitXor
  else if op = Opcode.ishl then some .ishl
  else if op = Opcode.ishr then some .ishr
  else if op = Opcode.ushr then some .ushr
  else none

/-- Decodes the operands of an executable instruction whose tokens, opcode
token first, are `toks`. -/
def decode (op : Nat) (toks : List UInt32) : Except OperandFault Instruction := do
  let head := toks.headD 0
  let saturate := Opcode.saturates head
  let nonzero := Opcode.testsNonzero head
  let ts := afterOpcode toks
  match unaryOp? op, binaryOp? op with
  | some u, _ =>
    let (d, ts) ← dst saturate ts
    let (s, _) ← src ts
    return .unary u d s
  | none, some b =>
    let (d, ts) ← dst saturate ts
    let (a, ts) ← src ts
    let (c, _) ← src ts
    return .binary b d a c
  | none, none =>
    if op = Opcode.mad ∨ op = Opcode.imad then
      let (d, ts) ← dst saturate ts
      let (a, ts) ← src ts
      let (b, ts) ← src ts
      let (c, _) ← src ts
      return .mad d a b c
    else if op = Opcode.movc then
      let (d, ts) ← dst saturate ts
      let (c, ts) ← src ts
      let (a, ts) ← src ts
      let (b, _) ← src ts
      return .movc d c a b
    else if op = Opcode.dp2 ∨ op = Opcode.dp3 ∨ op = Opcode.dp4 then
      let (d, ts) ← dst saturate ts
      let (a, ts) ← src ts
      let (b, _) ← src ts
      return .dot (op - Opcode.dp2 + 2) d a b
    else if op = Opcode.sinCos then
      let (s, ts) ← optionalDst ts
      let (c, ts) ← optionalDst ts
      let (x, _) ← src ts
      return .sinCos s c x
    else if op = Opcode.sample ∨ op = Opcode.sampleLod ∨ op = Opcode.sampleBias then
      let (d, ts) ← dst saturate ts
      let (coord, ts) ← src ts
      let (t, ts) ← texture ts
      let (smp, ts) ← sampler ts
      let level ←
        if op = Opcode.sampleLod then do
          let (l, _) ← src ts
          pure (SampleLevel.lod l)
        else if op = Opcode.sampleBias then do
          let (l, _) ← src ts
          pure (SampleLevel.bias l)
        else pure .implicit
      return .sample d coord t smp level
    else if op = Opcode.load then
      let (d, ts) ← dst saturate ts
      let (coord, ts) ← src ts
      let (t, _) ← texture ts
      return .load d coord t
    else if op = Opcode.discard then
      let (c, _) ← src ts
      return .discard c nonzero
    else if op = Opcode.beginIf then
      let (c, _) ← src ts
      return .beginIf c nonzero
    else if op = Opcode.exitLoopIf then
      let (c, _) ← src ts
      return .exitLoopIf c nonzero
    else if op = Opcode.beginElse then return .beginElse
    else if op = Opcode.endIf then return .endIf
    else if op = Opcode.beginLoop then return .beginLoop
    else if op = Opcode.endLoop then return .endLoop
    else if op = Opcode.exitLoop then return .exitLoop
    else if op = Opcode.nextIteration then return .nextIteration
    else if op = Opcode.ret then return .ret
    else return .unknown op

end Instruction

namespace Decl

open Operand TokenReader

/-- Decodes a declaration whose tokens, opcode token first, are `toks`;
`none` when it is not one of the modelled declarations or cannot be read. -/
def decode? (op : Nat) (toks : List UInt32) : Option Decl :=
  let head := toks.headD 0
  let ts := Instruction.afterOpcode toks
  let operand : Option RawOperand := match rawOperand ts with
    | .ok (raw, _) => some raw
    | .error _ => none
  if op = Opcode.declTemps then
    match ts with
    | n :: _ => some (.temps n.toNat)
    | [] => none
  else if op = Opcode.declIndexableTemp then
    match ts with
    | a :: l :: c :: _ => some (.indexableTemp a.toNat l.toNat c.toNat)
    | _ => none
  else if op = Opcode.declConstantBuffer then
    operand.map fun raw => .constantBuffer (raw.index 0).imm (raw.index 1).imm
  else if op = Opcode.declResource then
    operand.map fun raw =>
      .resource (raw.index 0).imm (ResourceDimension.ofCode ((head >>> 11) &&& 0x1f).toNat)
  else if op = Opcode.declSampler then
    operand.map fun raw => .sampler (raw.index 0).imm
  else if Opcode.declInputFirst ≤ op ∧ op ≤ Opcode.declInputLast then
    operand.map fun raw => .input (raw.index 0).imm raw.mask
  else if Opcode.declOutputFirst ≤ op ∧ op ≤ Opcode.declOutputLast then
    operand.map fun raw => .output (raw.index 0).imm raw.mask
  else if op = Opcode.declGlobalFlags then
    some (.globalFlags ((head >>> 11) &&& 0x1fff).toNat)
  else none

end Decl

end ShaderRecovery
