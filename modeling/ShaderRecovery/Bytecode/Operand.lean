import ShaderRecovery.Bytecode.Ir
import ShaderRecovery.Bytecode.Opcode

/-!
# Operand decoding

An operand is a token followed by optional extension tokens, its indices and
its immediates. The token holds the component count (bits 0 to 1), the
selection mode (2 to 3: mask, swizzle or single component), the selection
(4 to 11), the operand type (12 to 19), the index dimension (20 to 21) and,
from bit 22, three bits per index giving its representation: an immediate, a
relative register, or both. A relative index is itself a full operand.

Decoding reads from the instruction's remaining tokens. Each nested operand
reads at least one token, so nesting is bounded by their number; the decoder
takes one more than that number as its bound (`rawOperand`). Running out of
the bound is a fault of its own, `nestingExhausted`, which
`Operand.rawOperand_consumes_and_bound_suffices` shows is never reached.
-/

namespace ShaderRecovery

/-- Why an operand could not be decoded. -/
inductive OperandFault where
  | unexpectedEnd
  | unsupportedType (ty : Nat)
  | unsupportedIndexDimension (dim : Nat)
  | unsupportedIndexRepresentation (rep : Nat)
  | unsupportedOperand (what : String)
  /-- The nesting bound ran out before the tokens did. -/
  | nestingExhausted
  deriving DecidableEq, Repr

/-- A reader of instruction tokens: a value and the tokens after it. -/
abbrev TokenReader (α : Type) := List UInt32 → Except OperandFault (α × List UInt32)

namespace TokenReader

def next : TokenReader UInt32
  | [] => .error .unexpectedEnd
  | t :: ts => .ok (t, ts)

end TokenReader

/-- The fields of an operand before it is given a role. -/
structure RawOperand where
  ty : Nat
  numComponents : Nat
  selectionMode : Nat
  selection : Nat
  indices : List OperandIndex
  modifier : Modifier
  immediate : Option (UInt32 × UInt32 × UInt32 × UInt32)
  deriving DecidableEq, Repr

namespace OperandType

def temp : Nat := 0
def input : Nat := 1
def output : Nat := 2
def indexableTemp : Nat := 3
def immediate32 : Nat := 4
def sampler : Nat := 6
def resource : Nat := 7
def constantBuffer : Nat := 8
def immediateConstantBuffer : Nat := 9
def outputDepth : Nat := 12
def null : Nat := 13

end OperandType

namespace RawOperand

/-- Selection modes. -/
def selMask : Nat := 0
def selSwizzle : Nat := 1
def selSingle : Nat := 2

/-- Source lanes: a full swizzle, one component replicated, lane x for a
one-component operand, and the identity otherwise. -/
def swizzle (r : RawOperand) : Swizzle :=
  if r.numComponents = 2 ∧ r.selectionMode = selSwizzle then
    let s := r.selection
    ⟨s % 4, s / 4 % 4, s / 16 % 4, s / 64 % 4⟩
  else if r.numComponents = 2 ∧ r.selectionMode = selSingle then Swizzle.replicate (r.selection % 4)
  else if r.numComponents = 1 then Swizzle.replicate 0
  else Swizzle.identity

/-- Destination lanes: the selection's low four bits in mask mode, x for a
one-component operand, none for a zero-component one, all four otherwise. -/
def mask (r : RawOperand) : Nat :=
  if r.numComponents = 2 ∧ r.selectionMode = selMask then r.selection % 16
  else if r.numComponents = 1 then 1
  else if r.numComponents = 0 then 0
  else 15

/-- Index `n`, or immediate zero when the operand has fewer. -/
def index (r : RawOperand) (n : Nat) : OperandIndex :=
  (r.indices[n]?).getD (OperandIndex.ofImm 0)

/-- The register file of a register operand. -/
def registerFile? (r : RawOperand) : Option RegFile :=
  if r.ty = OperandType.temp then some .temp
  else if r.ty = OperandType.input then some .input
  else if r.ty = OperandType.output then some .output
  else if r.ty = OperandType.outputDepth then some .outputDepth
  else if r.ty = OperandType.null then some .null
  else if r.ty = OperandType.indexableTemp then some (.indexableTemp (r.index 0).imm)
  else none

/-- The register an operand names in a file: indexable temporaries use their
second index, depth and null registers have none. -/
def registerRef (r : RawOperand) (file : RegFile) : RegisterRef :=
  match file with
  | .indexableTemp _ => ⟨file, r.index 1⟩
  | .outputDepth | .null => ⟨file, OperandIndex.ofImm 0⟩
  | _ => ⟨file, r.index 0⟩

/-- Trailing zero bits of a four-bit value, four for zero. -/
def lowestSet (m : Nat) : Nat :=
  if m % 2 = 1 then 0 else if m / 2 % 2 = 1 then 1 else if m / 4 % 2 = 1 then 2
  else if m / 8 % 2 = 1 then 3 else 4

/-- The relative index an operand describes: its register and the one
component it selects (the lowest of a mask, at most w). -/
def relative (r : RawOperand) : Except OperandFault RelativeIndex :=
  match r.registerFile? with
  | none => .error (.unsupportedOperand "relative index source")
  | some file =>
    let index := match file with
      | .indexableTemp _ => (r.index 1).imm
      | _ => (r.index 0).imm
    let component :=
      if r.selectionMode = selMask then Nat.min (lowestSet (r.selection % 16)) 3
      else r.selection % 4
    .ok ⟨file, index, component⟩

end RawOperand

namespace Operand

open TokenReader

/-- The modifier carried by an extension token of modifier type. -/
def modifierOf (ext : UInt32) : Modifier :=
  match ((ext >>> 6) &&& 0xff).toNat with
  | 1 => .neg
  | 2 => .abs
  | 3 => .absNeg
  | _ => .none

/-- Reads a chain of extension tokens; the last modifier-type token decides
the modifier. -/
def extensions : Modifier → TokenReader Modifier
  | _, [] => .error .unexpectedEnd
  | m, t :: ts =>
    let m' := if (t &&& 0x3f) == 1 then modifierOf t else m
    if Opcode.isExtended t then extensions m' ts else .ok (m', ts)

/-- Reads `k` indices, the `n`-th first. -/
def indicesFrom (read : Nat → TokenReader OperandIndex) : Nat → Nat → TokenReader (List OperandIndex)
  | 0, _, ts => .ok ([], ts)
  | k + 1, n, ts => do
    let (i, ts) ← read n ts
    let (is, ts) ← indicesFrom read k (n + 1) ts
    return (i :: is, ts)

/-- Reads the immediates of an `immediate32` operand. -/
def immediates (numComponents : Nat) : TokenReader (UInt32 × UInt32 × UInt32 × UInt32) := fun ts =>
  if numComponents = 1 then do
    let (v, ts) ← next ts
    return ((v, v, v, v), ts)
  else if numComponents = 2 then do
    let (a, ts) ← next ts
    let (b, ts) ← next ts
    let (c, ts) ← next ts
    let (d, ts) ← next ts
    return ((a, b, c, d), ts)
  else .error (.unsupportedOperand "immediate32 with unsupported component count")

/-- Decodes an operand, nesting relative indices at most `bound` deep. -/
def rawOperandWithin : Nat → TokenReader RawOperand
  | 0, _ => .error .nestingExhausted
  | bound + 1, ts => do
    let (token, ts) ← next ts
    let (modifier, ts) ← if Opcode.isExtended token then extensions .none ts else pure (.none, ts)
    let indexDim := ((token >>> 20) &&& 3).toNat
    if indexDim = 3 then throw (.unsupportedIndexDimension 3)
    let readIndex : Nat → TokenReader OperandIndex := fun n ts =>
      match ((token >>> (22 + 3 * n).toUInt32) &&& 7).toNat with
      | 0 => do
        let (v, ts) ← next ts
        return (OperandIndex.ofImm v.toNat, ts)
      | 2 => do
        let (raw, ts) ← rawOperandWithin bound ts
        let rel ← raw.relative
        return (⟨0, some rel⟩, ts)
      | 3 => do
        let (v, ts) ← next ts
        let (raw, ts) ← rawOperandWithin bound ts
        let rel ← raw.relative
        return (⟨v.toNat, some rel⟩, ts)
      | rep => .error (.unsupportedIndexRepresentation rep)
    let (indices, ts) ← indicesFrom readIndex indexDim 0 ts
    let ty := ((token >>> 12) &&& 0xff).toNat
    let numComponents := (token &&& 3).toNat
    let (immediate, ts) ← if ty = OperandType.immediate32 then do
        let (v, ts) ← immediates numComponents ts
        pure (some v, ts)
      else pure (none, ts)
    let raw : RawOperand := {
      ty, numComponents, indices, modifier, immediate
      selectionMode := ((token >>> 2) &&& 3).toNat
      selection := ((token >>> 4) &&& 0xff).toNat }
    return (raw, ts)

/-- Decodes an operand from the remaining tokens of an instruction; each
nested operand starts after a token of the one around it, so the bound is
never reached. -/
def rawOperand : TokenReader RawOperand := fun ts => rawOperandWithin (ts.length + 1) ts

/-- A destination register. -/
def dst (saturate : Bool) : TokenReader Dst := fun ts => do
  let (raw, ts) ← rawOperand ts
  match raw.registerFile? with
  | some file => return (⟨raw.registerRef file, raw.mask, saturate⟩, ts)
  | none => .error (.unsupportedType raw.ty)

/-- A destination that may be the null register, which writes nothing. -/
def optionalDst : TokenReader (Option Dst) := fun ts => do
  let (d, ts) ← dst false ts
  return (if d.reg.file = .null then none else some d, ts)

/-- A source operand. -/
def src : TokenReader Src := fun ts => do
  let (raw, ts) ← rawOperand ts
  let kind ←
    if raw.ty = OperandType.immediate32 then
      let (a, b, c, d) := raw.immediate.getD (0, 0, 0, 0)
      pure (SrcKind.immediate a b c d)
    else if raw.ty = OperandType.constantBuffer then
      pure (SrcKind.constantBuffer (raw.index 0).imm (raw.index 1))
    else if raw.ty = OperandType.immediateConstantBuffer then
      pure (SrcKind.immediateConstantBuffer (raw.index 0))
    else match raw.registerFile? with
      | some file => pure (SrcKind.register (raw.registerRef file))
      | none => .error (.unsupportedType raw.ty)
  return (⟨kind, raw.swizzle, raw.modifier⟩, ts)

/-- A texture operand. -/
def texture : TokenReader TextureRef := fun ts => do
  let (raw, ts) ← rawOperand ts
  if raw.ty ≠ OperandType.resource then throw (.unsupportedType raw.ty)
  return (⟨(raw.index 0).imm, raw.swizzle⟩, ts)

/-- A sampler operand: its slot. -/
def sampler : TokenReader Nat := fun ts => do
  let (raw, ts) ← rawOperand ts
  if raw.ty ≠ OperandType.sampler then throw (.unsupportedType raw.ty)
  return ((raw.index 0).imm, ts)

end Operand

end ShaderRecovery
