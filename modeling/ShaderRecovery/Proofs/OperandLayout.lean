import Mathlib
import ShaderRecovery.Bytecode.Instruction
import ShaderRecovery.Proofs.Checked

/-!
# The operand token layout, written and read back

An operand of a token program is a token, the extension tokens it announces,
its indices and its immediates. `OperandForm` describes each operand of that
layout the decoder knows: its type, its component count and selection, its
chain of extension tokens, up to two indices (an immediate, a relative
register, or both), and the immediates of an `immediate32` operand. A
relative register is itself an operand, of a register type and with immediate
indices (`RelativeSource`). `OperandForm.words` writes a form as the layout
prescribes.

The IR operand a form stands for is read off the form itself: the swizzle or
the write mask of its selection, the register file and register its type and
indices name, the constant buffer slot and register, the immediate replicated
to four lanes when it has one component, and the modifier of the last modifier
token of its chain.

Principal results: `Operand.rawOperand_words` — reading the words of a
form consumes exactly them and gives the form's fields — and `dst_words`,
`src_words`, `texture_words`, `sampler_words`: each operand reader returns the
IR operand of the form, or refuses a type it does not take.
-/

namespace ShaderRecovery

/-! ## Forms -/

/-- The register files an operand type names. -/
inductive RegisterKind where
  | temp
  | input
  | output
  | indexableTemp
  | outputDepth
  | null
  deriving DecidableEq, Repr

/-- The operand types the decoder knows. -/
inductive OperandKind where
  | register (r : RegisterKind)
  | immediate32
  | sampler
  | resource
  | constantBuffer
  | immediateConstantBuffer
  deriving DecidableEq, Repr

namespace RegisterKind

/-- The type code of a register file. -/
def code : RegisterKind → Nat
  | temp => OperandType.temp
  | input => OperandType.input
  | output => OperandType.output
  | indexableTemp => OperandType.indexableTemp
  | outputDepth => OperandType.outputDepth
  | null => OperandType.null

/-- The register an operand of this file names: an indexable temporary is
array `index 0` at register `index 1`; depth and null have no index. -/
def ref (r : RegisterKind) (index : Nat → OperandIndex) : RegisterRef :=
  match r with
  | temp => ⟨.temp, index 0⟩
  | input => ⟨.input, index 0⟩
  | output => ⟨.output, index 0⟩
  | indexableTemp => ⟨.indexableTemp (index 0).imm, index 1⟩
  | outputDepth => ⟨.outputDepth, .ofImm 0⟩
  | null => ⟨.null, .ofImm 0⟩

end RegisterKind

/-- The type code of an operand type (token bits 12 to 19). -/
def OperandKind.code : OperandKind → Nat
  | register r => r.code
  | immediate32 => OperandType.immediate32
  | sampler => OperandType.sampler
  | resource => OperandType.resource
  | constantBuffer => OperandType.constantBuffer
  | immediateConstantBuffer => OperandType.immediateConstantBuffer

/-- The selection of a four-component operand: a write mask, a swizzle, or
one component. -/
inductive ComponentSelection where
  | mask (m : Fin 16)
  | swizzle (x y z w : Fin 4)
  | single (c : Fin 4)
  deriving DecidableEq, Repr

namespace ComponentSelection

/-- The selection mode (token bits 2 to 3). -/
def mode : ComponentSelection → Nat
  | mask _ => RawOperand.selMask
  | swizzle .. => RawOperand.selSwizzle
  | single _ => RawOperand.selSingle

/-- The selection (token bits 4 to 11): the mask, two bits per swizzle lane
from x up, or the component. -/
def bits : ComponentSelection → Nat
  | mask m => m
  | swizzle x y z w => x + 4 * y + 16 * z + 64 * w
  | single c => c

end ComponentSelection

/-- The components of an operand: none, one, or four with their selection. -/
inductive Components where
  | zero
  | one
  | four (sel : ComponentSelection)
  deriving DecidableEq, Repr

namespace Components

/-- The component count field (token bits 0 to 1). -/
def code : Components → Nat
  | zero => 0
  | one => 1
  | four _ => 2

def mode : Components → Nat
  | four s => s.mode
  | _ => 0

def bits : Components → Nat
  | four s => s.bits
  | _ => 0

/-- Source lanes: the swizzle, the one selected component in every lane, x in
every lane for a one-component operand, and the identity otherwise. -/
def swizzle : Components → Swizzle
  | four (.swizzle x y z w) => ⟨x, y, z, w⟩
  | four (.single c) => .replicate c
  | one => .replicate 0
  | _ => .identity

/-- Written lanes: the mask, all four for another selection, x alone for one
component, none for zero. -/
def mask : Components → Nat
  | four (.mask m) => m
  | four _ => 15
  | one => 1
  | zero => 0

/-- The lane a relative index reads: the selected one, the first of a
swizzle, the lowest of a mask. An operand of fewer than four components has
zero selection bits, which read as an empty mask: the last lane, w. -/
def lane : Components → Nat
  | four (.mask m) => (maskLanes m).headD 3
  | four (.swizzle x _ _ _) => x
  | four (.single c) => c
  | _ => 3

end Components

/-- The modifier a modifier token names by its code (bits 6 to 13); a code
that names none is no modifier. -/
def Modifier.ofCode : Nat → Modifier
  | 1 => .neg
  | 2 => .abs
  | 3 => .absNeg
  | _ => .none

/-- An extended operand token: a modifier token (type 1), with its code and
the bits above it, or a token of another extension type (bits 0 to 5) whose
payload (bits 6 to 30) carries no modifier. -/
inductive Extension where
  | modifier (code : Fin 256) (high : Fin (2 ^ 17))
  | other (kind : Fin 64) (payload : Fin (2 ^ 25)) (h : kind.val ≠ 1)

namespace Extension

def kindBits : Extension → Nat
  | modifier .. => 1
  | other k _ _ => k

def payloadBits : Extension → Nat
  | modifier c h => c + 256 * h
  | other _ p _ => p

/-- The token, with the extension bit (31) set when another token follows. -/
def word (e : Extension) (more : Bool) : UInt32 :=
  UInt32.ofNat (e.kindBits + 64 * e.payloadBits + 2 ^ 31 * more.toNat)

def modifier? : Extension → Option Modifier
  | modifier c _ => some (Modifier.ofCode c)
  | other .. => none

/-- The tokens of a chain: each but the last announces another. -/
def chainWords : List Extension → List UInt32
  | [] => []
  | e :: es => e.word (!es.isEmpty) :: chainWords es

/-- The modifier of a chain: that of its last modifier token, none without one. -/
def chainModifier (es : List Extension) : Modifier :=
  ((es.filterMap modifier?).getLast?).getD .none

end Extension

/-- How an index is laid out: the representation its operand token gives it
(three bits from bit 22), the words that follow, and the index they stand for. -/
class IndexLayout (ι : Type) where
  rep : ι → Nat
  words : ι → List UInt32
  value : ι → OperandIndex
  rep_lt (i : ι) : rep i < 8

open IndexLayout

/-- The immediates of an operand: one for a one-component `immediate32`, four
for a four-component one, none for another type. -/
def ImmediatesFit (kind : OperandKind) (c : Components) (vs : List UInt32) : Prop :=
  if kind = .immediate32 then c = .one ∧ vs.length = 1 ∨ c.code = 2 ∧ vs.length = 4
  else vs = []

/-- An operand as the layout writes it, with indices laid out by `ι`. -/
structure OperandForm (ι : Type) where
  kind : OperandKind
  components : Components
  extensions : List Extension
  indices : List ι
  immediates : List UInt32
  index_dim : indices.length ≤ 2
  immediates_fit : ImmediatesFit kind components immediates

namespace OperandForm

variable {ι : Type} [IndexLayout ι]

/-- Representation codes, three bits each, index 0 lowest. -/
def repBits : List Nat → Nat
  | [] => 0
  | r :: rs => r + 8 * repBits rs

/-- The operand token as a number. -/
def tokenValue (f : OperandForm ι) : Nat :=
  f.components.code + 4 * f.components.mode + 16 * f.components.bits + 4096 * f.kind.code +
    2 ^ 20 * f.indices.length + 2 ^ 22 * repBits (f.indices.map rep) +
    2 ^ 31 * (!f.extensions.isEmpty).toNat

def token (f : OperandForm ι) : UInt32 := UInt32.ofNat f.tokenValue

/-- The words of an operand: token, extension chain, indices, immediates. -/
def words (f : OperandForm ι) : List UInt32 :=
  f.token :: (Extension.chainWords f.extensions ++ f.indices.flatMap IndexLayout.words ++
    f.immediates)

/-- Index `n`, immediate zero past the last. -/
def index (f : OperandForm ι) (n : Nat) : OperandIndex :=
  ((f.indices.map value)[n]?).getD (.ofImm 0)

/-- The immediate, replicated to four lanes when it is one word. -/
def immediate? (f : OperandForm ι) : Option (UInt32 × UInt32 × UInt32 × UInt32) :=
  match f.immediates with
  | [v] => some (v, v, v, v)
  | [a, b, c, d] => some (a, b, c, d)
  | _ => none

/-- The fields a form gives an operand. -/
def raw (f : OperandForm ι) : RawOperand where
  ty := f.kind.code
  numComponents := f.components.code
  selectionMode := f.components.mode
  selection := f.components.bits
  indices := f.indices.map value
  modifier := Extension.chainModifier f.extensions
  immediate := f.immediate?

/-- The destination a form of a register type stands for. -/
def toDst? (f : OperandForm ι) (saturate : Bool) : Option Dst :=
  match f.kind with
  | .register r => some ⟨r.ref f.index, f.components.mask, saturate⟩
  | _ => none

/-- What a source reads: a register, a constant buffer slot at a register,
the immediate constant buffer, or the immediate. -/
def srcKind? (f : OperandForm ι) : Option SrcKind :=
  match f.kind with
  | .register r => some (.register (r.ref f.index))
  | .immediate32 => f.immediate?.map fun (a, b, c, d) => .immediate a b c d
  | .constantBuffer => some (.constantBuffer (f.index 0).imm (f.index 1))
  | .immediateConstantBuffer => some (.immediateConstantBuffer (f.index 0))
  | .sampler | .resource => none

def toSrc? (f : OperandForm ι) : Option Src :=
  f.srcKind?.map fun k => ⟨k, f.components.swizzle, Extension.chainModifier f.extensions⟩

def toTexture? (f : OperandForm ι) : Option TextureRef :=
  if f.kind = .resource then some ⟨(f.index 0).imm, f.components.swizzle⟩ else none

def toSampler? (f : OperandForm ι) : Option Nat :=
  if f.kind = .sampler then some (f.index 0).imm else none

end OperandForm

/-- An immediately indexed operand: each index one word. -/
instance : IndexLayout UInt32 where
  rep _ := 0
  words v := [v]
  value v := .ofImm v.toNat
  rep_lt _ := by decide

/-- The source of a relative index: a register operand with immediate indices. -/
structure RelativeSource where
  register : RegisterKind
  components : Components
  extensions : List Extension
  indices : List UInt32
  index_dim : indices.length ≤ 2

namespace RelativeSource

def form (s : RelativeSource) : OperandForm UInt32 where
  kind := .register s.register
  components := s.components
  extensions := s.extensions
  indices := s.indices
  immediates := []
  index_dim := s.index_dim
  immediates_fit := by simp [ImmediatesFit]

/-- The relative index a source stands for: its register file, its register
(the second index of an indexable temporary, the first otherwise) and the lane
it reads. -/
def index (s : RelativeSource) : RelativeIndex where
  file := (s.register.ref s.form.index).file
  index := (s.form.index (if s.register = .indexableTemp then 1 else 0)).imm
  component := s.components.lane

end RelativeSource

/-- An index of an operand: an immediate, a relative register, or both. -/
inductive IndexForm where
  | imm (v : UInt32)
  | relative (s : RelativeSource)
  | immPlusRelative (v : UInt32) (s : RelativeSource)

namespace IndexForm

def rep : IndexForm → Nat
  | imm _ => 0
  | relative _ => 2
  | immPlusRelative .. => 3

def words : IndexForm → List UInt32
  | imm v => [v]
  | relative s => s.form.words
  | immPlusRelative v s => v :: s.form.words

def value : IndexForm → OperandIndex
  | imm v => .ofImm v.toNat
  | relative s => ⟨0, some s.index⟩
  | immPlusRelative v s => ⟨v.toNat, some s.index⟩

theorem rep_lt (i : IndexForm) : i.rep < 8 := by
  cases i <;> simp [rep]

instance : IndexLayout IndexForm where
  rep := rep
  words := words
  value := value
  rep_lt := rep_lt

end IndexForm

/-! ## Fields of the token -/

theorem Components.code_le (c : Components) : c.code ≤ 2 := by
  cases c <;> simp [code]

theorem Components.mode_le (c : Components) : c.mode ≤ 2 := by
  rcases c with _ | _ | (_ | _ | _) <;> simp [mode, ComponentSelection.mode, RawOperand.selMask,
    RawOperand.selSwizzle, RawOperand.selSingle]

theorem Components.bits_lt (c : Components) : c.bits < 256 := by
  rcases c with _ | _ | (m | ⟨x, y, z, w⟩ | c)
  all_goals simp only [bits, ComponentSelection.bits]
  · decide
  · decide
  · omega
  · omega
  · omega

theorem OperandKind.code_le (k : OperandKind) : k.code ≤ 13 := by
  rcases k with (_ | _ | _ | _ | _ | _) | _ | _ | _ | _ | _ <;> decide

/-- Distinct operand types have distinct codes. -/
theorem OperandKind.code_inj {a b : OperandKind} : a.code = b.code ↔ a = b := by
  rcases a with (_ | _ | _ | _ | _ | _) | _ | _ | _ | _ | _ <;>
    rcases b with (_ | _ | _ | _ | _ | _) | _ | _ | _ | _ | _ <;> decide

theorem OperandKind.code_eq_immediate32 {k : OperandKind} :
    k.code = OperandType.immediate32 ↔ k = .immediate32 :=
  code_inj (b := .immediate32)

theorem OperandKind.code_eq_resource {k : OperandKind} :
    k.code = OperandType.resource ↔ k = .resource :=
  code_inj (b := .resource)

theorem OperandKind.code_eq_sampler {k : OperandKind} : k.code = OperandType.sampler ↔ k = .sampler :=
  code_inj (b := .sampler)

namespace OperandForm

variable {ι : Type} [IndexLayout ι] (f : OperandForm ι)

theorem repBits_lt (rs : List Nat) (h : ∀ r ∈ rs, r < 8) : repBits rs < 8 ^ rs.length := by
  induction rs with
  | nil => simp [repBits]
  | cons r rs ih =>
    have hr := h r List.mem_cons_self
    have hrs := ih fun r' hr' => h r' (List.mem_cons_of_mem r hr')
    rw [repBits, List.length_cons, Nat.pow_succ]
    omega

/-- The parts of the token fit their fields. -/
theorem parts_lt : f.components.code < 4 ∧ f.components.mode < 4 ∧ f.components.bits < 256 ∧
    f.kind.code < 256 ∧ f.indices.length < 4 ∧ repBits (f.indices.map rep) < 64 ∧
    (!f.extensions.isEmpty).toNat < 2 := by
  have hr := repBits_lt (f.indices.map rep) (by simpa using fun i _ => rep_lt i)
  have hle : 8 ^ (f.indices.map rep).length ≤ 8 ^ 2 :=
    Nat.pow_le_pow_right (by decide) (by simpa using f.index_dim)
  have := f.components.code_le
  have := f.components.mode_le
  have := f.kind.code_le
  have := f.index_dim
  have := Bool.toNat_le (!f.extensions.isEmpty)
  exact ⟨by omega, by omega, f.components.bits_lt, by omega, by omega, by omega, by omega⟩

/-- Code `n` of a list of representation codes. -/
theorem repBits_getElem (rs : List Nat) (h : ∀ r ∈ rs, r < 8) (n : Nat) (hn : n < rs.length) :
    repBits rs / 8 ^ n % 8 = rs[n] := by
  induction rs generalizing n with
  | nil => simp at hn
  | cons r rs ih =>
    have hr := h r List.mem_cons_self
    cases n with
    | zero => simp only [repBits, Nat.pow_zero, Nat.div_one, List.getElem_cons_zero]; omega
    | succ n =>
      have hdiv : (r + 8 * repBits rs) / 8 = repBits rs := by omega
      rw [repBits, Nat.pow_succ', ← Nat.div_div_eq_div_mul, hdiv, List.getElem_cons_succ]
      exact ih (fun r' hr' => h r' (List.mem_cons_of_mem r hr')) n (by simpa using hn)

theorem token_toNat : f.token.toNat = f.tokenValue := by
  obtain ⟨_, _, _, _, _, _, _⟩ := f.parts_lt
  rw [token, UInt32.toNat_ofNat', Nat.mod_eq_of_lt (by unfold tokenValue; omega)]

/-- Each part of the token, read back from its bits. -/
theorem token_fields :
    f.token.toNat % 4 = f.components.code ∧ f.token.toNat / 2 ^ 2 % 4 = f.components.mode ∧
    f.token.toNat / 2 ^ 4 % 256 = f.components.bits ∧
    f.token.toNat / 2 ^ 12 % 256 = f.kind.code ∧ f.token.toNat / 2 ^ 20 % 4 = f.indices.length ∧
    f.token.toNat / 2 ^ 22 % 64 = repBits (f.indices.map rep) ∧
    f.token.toNat / 2 ^ 31 = (!f.extensions.isEmpty).toNat := by
  obtain ⟨_, _, _, _, _, _, _⟩ := f.parts_lt
  rw [token_toNat]
  unfold tokenValue
  omega

end OperandForm

/-- `k` bits of a word from bit `s`. -/
theorem toNat_shiftRight_and (t : UInt32) (s k : Nat) (hs : s < 32) (hk : k ≤ 32) :
    ((t >>> s.toUInt32) &&& (2 ^ k - 1).toUInt32).toNat = t.toNat / 2 ^ s % 2 ^ k := by
  have hm : (2 ^ k - 1) % 2 ^ 32 = 2 ^ k - 1 :=
    Nat.mod_eq_of_lt (lt_of_lt_of_le (Nat.sub_lt (Nat.two_pow_pos k) Nat.one_pos)
      (Nat.pow_le_pow_right (by decide) hk))
  have hs' : s % 2 ^ 32 % 32 = s := by omega
  rw [UInt32.toNat_and, UInt32.toNat_shiftRight, Nat.toUInt32_eq, Nat.toUInt32_eq,
    UInt32.toNat_ofNat', UInt32.toNat_ofNat', hs', hm, Nat.shiftRight_eq_div_pow,
    Nat.and_two_pow_sub_one_eq_mod]

/-- Bit 31: another token follows. -/
theorem isExtended_eq (t : UInt32) : Opcode.isExtended t = decide (t.toNat / 2 ^ 31 = 1) := by
  have h : (t >>> 31).toNat = t.toNat / 2 ^ 31 := by
    rw [UInt32.toNat_shiftRight, Nat.shiftRight_eq_div_pow]
    rfl
  unfold Opcode.isExtended
  rw [← h, Bool.eq_iff_iff, beq_iff_eq, decide_eq_true_iff, ← UInt32.toNat_inj]
  rfl

/-- A word below bit 31, with bit 31 set when another token follows. -/
theorem isExtended_ofNat {v : Nat} (hv : v < 2 ^ 31) (more : Bool) :
    Opcode.isExtended (UInt32.ofNat (v + 2 ^ 31 * more.toNat)) = more := by
  have := Bool.toNat_le more
  rw [isExtended_eq, UInt32.toNat_ofNat', Nat.mod_eq_of_lt (by omega)]
  cases more <;> simp <;> omega

namespace OperandForm

variable {ι : Type} [IndexLayout ι] (f : OperandForm ι)

theorem count_token : (f.token &&& 3).toNat = f.components.code := by
  rw [UInt32.toNat_and]
  exact (Nat.and_two_pow_sub_one_eq_mod _ 2).trans f.token_fields.1

theorem mode_token : ((f.token >>> 2) &&& 3).toNat = f.components.mode :=
  (toNat_shiftRight_and f.token 2 2 (by decide) (by decide)).trans f.token_fields.2.1

theorem selection_token : ((f.token >>> 4) &&& 0xff).toNat = f.components.bits :=
  (toNat_shiftRight_and f.token 4 8 (by decide) (by decide)).trans f.token_fields.2.2.1

theorem type_token : ((f.token >>> 12) &&& 0xff).toNat = f.kind.code :=
  (toNat_shiftRight_and f.token 12 8 (by decide) (by decide)).trans f.token_fields.2.2.2.1

theorem dim_token : ((f.token >>> 20) &&& 3).toNat = f.indices.length :=
  (toNat_shiftRight_and f.token 20 2 (by decide) (by decide)).trans f.token_fields.2.2.2.2.1

theorem rep_token {n : Nat} (hn : n < f.indices.length) :
    ((f.token >>> (22 + 3 * n).toUInt32) &&& 7).toNat = rep f.indices[n] := by
  have hdim := f.index_dim
  refine (toNat_shiftRight_and f.token (22 + 3 * n) 3 (by omega) (by decide)).trans ?_
  have hget := repBits_getElem (f.indices.map rep) (by simpa using fun i _ => rep_lt i) n
    (by simpa using hn)
  rw [List.getElem_map] at hget
  rw [← hget, ← f.token_fields.2.2.2.2.2.1]
  rcases (by omega : n = 0 ∨ n = 1) with rfl | rfl <;> omega

theorem isExtended_token : Opcode.isExtended f.token = !f.extensions.isEmpty := by
  rw [isExtended_eq, f.token_fields.2.2.2.2.2.2]
  cases f.extensions.isEmpty <;> rfl

end OperandForm

/-! ## Extension chains -/

namespace Extension

theorem parts_lt (e : Extension) : e.kindBits < 64 ∧ e.payloadBits < 2 ^ 25 := by
  cases e with
  | modifier c h =>
    have := c.isLt
    have := h.isLt
    simp only [kindBits, payloadBits]
    omega
  | other k p _ => exact ⟨k.isLt, p.isLt⟩

theorem word_toNat (e : Extension) (more : Bool) :
    (e.word more).toNat = e.kindBits + 64 * e.payloadBits + 2 ^ 31 * more.toNat := by
  obtain ⟨hk, hp⟩ := e.parts_lt
  have := Bool.toNat_le more
  rw [word, UInt32.toNat_ofNat', Nat.mod_eq_of_lt (by omega)]

theorem isExtended_word (e : Extension) (more : Bool) : Opcode.isExtended (e.word more) = more := by
  obtain ⟨hk, hp⟩ := e.parts_lt
  exact isExtended_ofNat (by omega) more

/-- Bits 0 to 5 of a token test for the modifier type. -/
theorem modifierType_word (e : Extension) (more : Bool) :
    ((e.word more &&& 0x3f) == 1) = decide (e.kindBits = 1) := by
  have h : (e.word more &&& 0x3f).toNat = e.kindBits := by
    obtain ⟨hk, _⟩ := e.parts_lt
    rw [UInt32.toNat_and, word_toNat]
    refine (Nat.and_two_pow_sub_one_eq_mod _ 6).trans ?_
    omega
  rw [Bool.eq_iff_iff, beq_iff_eq, decide_eq_true_iff, ← UInt32.toNat_inj, h]
  rfl

theorem modifierOf_word (c : Fin 256) (high : Fin (2 ^ 17)) (more : Bool) :
    Operand.modifierOf ((modifier c high).word more) = Modifier.ofCode c := by
  have h : (((modifier c high).word more >>> 6) &&& 0xff).toNat = c := by
    refine (toNat_shiftRight_and _ 6 8 (by decide) (by decide)).trans ?_
    rw [word_toNat]
    have := c.isLt
    simp only [kindBits, payloadBits]
    omega
  rw [Operand.modifierOf, h]
  rfl

/-- One token of a chain: a modifier token sets the modifier, another keeps it. -/
theorem modifier_step (e : Extension) (more : Bool) (m : Modifier) :
    (if (e.word more &&& 0x3f) == 1 then Operand.modifierOf (e.word more) else m) =
      e.modifier?.getD m := by
  rw [modifierType_word]
  cases e with
  | modifier c high => simp [kindBits, modifierOf_word, modifier?]
  | other k p hk => simp [kindBits, hk, modifier?]

theorem getLast?_filterMap_cons {α β : Type} (g : α → Option β) (x : α) (xs : List α) (d : β) :
    (((x :: xs).filterMap g).getLast?).getD d = ((xs.filterMap g).getLast?).getD ((g x).getD d) := by
  cases hx : g x with
  | none => simp [hx]
  | some b => simp [hx, List.getLast?_cons]

/-- Reading a chain consumes exactly its tokens and ends with the modifier of
its last modifier token, or the one it started with. -/
theorem extensions_chainWords (m : Modifier) {es : List Extension} (hes : es ≠ [])
    (rest : List UInt32) :
    Operand.extensions m (chainWords es ++ rest) =
      .ok (((es.filterMap modifier?).getLast?).getD m, rest) := by
  induction es generalizing m with
  | nil => exact absurd rfl hes
  | cons e es ih =>
    rw [chainWords, List.cons_append, Operand.extensions]
    simp only [modifier_step, isExtended_word, getLast?_filterMap_cons]
    cases es with
    | nil => simp [chainWords]
    | cons e' es => simpa using ih (e.modifier?.getD m) (List.cons_ne_nil e' es)

theorem extensions_chain {es : List Extension} (hes : es ≠ []) (rest : List UInt32) :
    Operand.extensions .none (chainWords es ++ rest) = .ok (chainModifier es, rest) :=
  extensions_chainWords .none hes rest

end Extension

/-! ## Reading an operand back -/

namespace Operand

open TokenReader IndexLayout

/-- Reads one index of representation `rep`: an immediate, a relative register
read as an operand nested within `bound`, or both. It is the index reader of
`rawOperandWithin` at an index of that representation. -/
def readIndex (bound rep : Nat) : TokenReader OperandIndex := fun ts =>
  match rep with
  | 0 => do
    let (v, ts) ← next ts
    return (OperandIndex.ofImm v.toNat, ts)
  | 2 => do
    let (raw, ts) ← rawOperandWithin bound ts
    let rel ← raw.relative
    return (⟨0, some rel⟩, ts)
  | 3 => do
    let (v, ts) ← next ts
    let (raw, ts) ← rawOperandWithin bound ts
    let rel ← raw.relative
    return (⟨v.toNat, some rel⟩, ts)
  | rep => .error (.unsupportedIndexRepresentation rep)

variable {ι : Type} [IndexLayout ι]

/-- Indices read one after the other, each by the reader at its position. -/
theorem indicesFrom_words {read : Nat → TokenReader OperandIndex} (is : List ι) (n : Nat)
    (rest : List UInt32)
    (h : ∀ j (hj : j < is.length) rest, read (n + j) (words is[j] ++ rest) = .ok (value is[j], rest)) :
    indicesFrom read is.length n (is.flatMap words ++ rest) = .ok (is.map value, rest) := by
  induction is generalizing n with
  | nil => rfl
  | cons i is ih =>
    have hi : read n (words i ++ (is.flatMap words ++ rest)) = .ok (value i, is.flatMap words ++ rest) :=
      h 0 (by simp) _
    have his := ih (n + 1) fun j hj rest => by
      rw [show n + 1 + j = n + (j + 1) by omega]
      exact h (j + 1) (by simpa using hj) rest
    rw [List.length_cons, List.flatMap_cons, List.append_assoc, indicesFrom, hi, ok_bind_eq]
    dsimp only
    rw [his, ok_bind_eq]
    rfl

omit [IndexLayout ι] in
theorem immediates_words (f : OperandForm ι) (h : f.kind = .immediate32) (rest : List UInt32) :
    ∃ v, f.immediate? = some v ∧ immediates f.components.code (f.immediates ++ rest) = .ok (v, rest) := by
  have hfit := f.immediates_fit
  rw [ImmediatesFit, if_pos h] at hfit
  rcases hfit with ⟨hc, hlen⟩ | ⟨hc, hlen⟩
  · obtain ⟨v, hv⟩ := List.length_eq_one_iff.mp hlen
    refine ⟨(v, v, v, v), by simp [OperandForm.immediate?, hv], ?_⟩
    rw [hc, hv]
    rfl
  · match hvs : f.immediates, hlen with
    | [a, b, c, d], _ =>
      refine ⟨(a, b, c, d), by simp [OperandForm.immediate?, hvs], ?_⟩
      rw [hc]
      rfl

/-- The extension tokens of a form, read when its token announces them, give
the modifier of its chain; without them the modifier is none. -/
theorem chain_words (f : OperandForm ι) (rest : List UInt32) :
    (if Opcode.isExtended f.token then extensions .none (Extension.chainWords f.extensions ++ rest)
      else pure (.none, Extension.chainWords f.extensions ++ rest)) =
      (.ok (Extension.chainModifier f.extensions, rest) : Except OperandFault _) := by
  rw [f.isExtended_token]
  split
  case isTrue hext => exact Extension.extensions_chain (by simpa using hext) rest
  case isFalse hext =>
    have he : f.extensions = [] := by simpa using hext
    simp [he, Extension.chainModifier, Extension.chainWords, pure_eq_ok]

theorem rawOperandWithin_words (f : OperandForm ι) (b : Nat) (rest : List UInt32)
    (hidx : ∀ i ∈ f.indices, ∀ rest, readIndex b (rep i) (words i ++ rest) = .ok (value i, rest)) :
    rawOperandWithin (b + 1) (f.words ++ rest) = .ok (f.raw, rest) := by
  rw [rawOperandWithin, OperandForm.words, List.cons_append]
  dsimp only [next]
  rw [ok_bind_eq]
  dsimp only
  -- the continuation after the chain was copied into both branches of its test
  rw [List.append_assoc, List.append_assoc, ← apply_ite_left bind, chain_words, ok_bind_eq]
  dsimp only
  have hdim : f.indices.length ≠ 3 := by have := f.index_dim; omega
  rw [f.dim_token, if_neg hdim]
  -- each index is read by the reader of its representation
  rw [indicesFrom_words f.indices 0 _ fun j hj rest => by
    rw [Nat.zero_add, f.rep_token hj]
    exact hidx _ (List.getElem_mem hj) rest]
  rw [ok_bind_eq]
  dsimp only
  rw [f.type_token, f.count_token, f.mode_token, f.selection_token]
  by_cases hk : f.kind = .immediate32
  · obtain ⟨v, hv, himm⟩ := immediates_words f hk rest
    rw [if_pos (by rw [hk]; rfl), himm]
    simp [OperandForm.raw, hv]
  · have hnil : f.immediates = [] := by
      have hfit := f.immediates_fit
      rwa [ImmediatesFit, if_neg hk] at hfit
    rw [if_neg (mt OperandKind.code_eq_immediate32.mp hk)]
    simp only [hnil, List.nil_append, pure_bind, OperandForm.raw, OperandForm.immediate?]
    rfl

end Operand

/-! ## Relative indices and the readers of the operand roles -/

namespace OperandForm

variable {ι : Type} [IndexLayout ι] (f : OperandForm ι)

@[simp] theorem ty_raw : f.raw.ty = f.kind.code := rfl

@[simp] theorem modifier_raw : f.raw.modifier = Extension.chainModifier f.extensions := rfl

@[simp] theorem immediate_raw : f.raw.immediate = f.immediate? := rfl

@[simp] theorem index_raw (n : Nat) : f.raw.index n = f.index n := rfl

/-- The register file of a form of a register type, and no file for another. -/
theorem registerFile?_raw :
    f.raw.registerFile? = match f.kind with
      | .register r => some (r.ref f.index).file
      | _ => none := by
  unfold RawOperand.registerFile?
  rcases hk : f.kind with (_ | _ | _ | _ | _ | _) | _ | _ | _ | _ | _ <;>
    simp [raw, hk, OperandKind.code, RegisterKind.code, RegisterKind.ref, OperandType.temp,
      OperandType.input, OperandType.output, OperandType.indexableTemp, OperandType.outputDepth,
      OperandType.null, OperandType.immediate32, OperandType.sampler, OperandType.resource,
      OperandType.constantBuffer, OperandType.immediateConstantBuffer, RawOperand.index, index]

end OperandForm

namespace Components

/-- The lane a relative index reads, from the selection mode and bits. -/
theorem lane_eq (c : Components) (r : RawOperand) (hm : r.selectionMode = c.mode)
    (hb : r.selection = c.bits) :
    (if r.selectionMode = RawOperand.selMask then Nat.min (RawOperand.lowestSet (r.selection % 16)) 3
      else r.selection % 4) = c.lane := by
  rw [hm, hb]
  clear hm hb
  rcases c with _ | _ | (m | ⟨x, y, z, w⟩ | c)
  · rfl
  · rfl
  · revert m
    decide
  · simp [mode, bits, lane, ComponentSelection.mode, ComponentSelection.bits,
      RawOperand.selMask, RawOperand.selSwizzle]
    omega
  · simp [mode, bits, lane, ComponentSelection.mode, ComponentSelection.bits,
      RawOperand.selMask, RawOperand.selSingle]

end Components

namespace RelativeSource

open Operand

/-- A relative source reads back at every nesting bound: its indices are
immediates. -/
theorem rawOperandWithin_words (s : RelativeSource) (b : Nat) (rest : List UInt32) :
    rawOperandWithin (b + 1) (s.form.words ++ rest) = .ok (s.form.raw, rest) :=
  Operand.rawOperandWithin_words s.form b rest fun _ _ _ => rfl

theorem relative_raw (s : RelativeSource) : s.form.raw.relative = .ok s.index := by
  rw [RawOperand.relative, s.form.registerFile?_raw, s.components.lane_eq s.form.raw rfl rfl]
  obtain ⟨r, c, es, is, h⟩ := s
  cases r <;> rfl

end RelativeSource

namespace IndexForm

open Operand

theorem form_words_ne (s : RelativeSource) : s.form.words ≠ [] := by
  simp [OperandForm.words]

/-- An index reads back when the nesting bound leaves room for its words. -/
theorem readIndex_words (i : IndexForm) {b : Nat} (hb : i.words.length ≤ b) (rest : List UInt32) :
    readIndex b i.rep (i.words ++ rest) = .ok (i.value, rest) := by
  cases i with
  | imm v => rfl
  | relative s =>
    obtain ⟨b, rfl⟩ : ∃ b', b = b' + 1 :=
      Nat.exists_eq_add_one.mpr (lt_of_lt_of_le (List.length_pos_iff.mpr (form_words_ne s)) hb)
    simp only [readIndex, rep, words, s.rawOperandWithin_words, ok_bind_eq, s.relative_raw]
    rfl
  | immPlusRelative v s =>
    obtain ⟨b, rfl⟩ : ∃ b', b = b' + 1 :=
      Nat.exists_eq_add_one.mpr (by simp only [words, List.length_cons] at hb; omega)
    simp only [readIndex, rep, words, List.cons_append, TokenReader.next, ok_bind_eq,
      s.rawOperandWithin_words, s.relative_raw]
    rfl

end IndexForm

namespace Operand

/-- Reading an operand consumes exactly its words and gives its fields. -/
theorem rawOperand_words (f : OperandForm IndexForm) (rest : List UInt32) :
    rawOperand (f.words ++ rest) = .ok (f.raw, rest) := by
  rw [rawOperand]
  refine rawOperandWithin_words f _ rest fun i hi rest' => IndexForm.readIndex_words i ?_ rest'
  -- an index's words lie among the operand's, after its token
  have hinfix : (IndexLayout.words i).length ≤ (f.indices.flatMap IndexLayout.words).length :=
    (List.infix_of_mem_flatten (List.mem_map_of_mem hi)).length_le
  have hw : f.words.length = (Extension.chainWords f.extensions).length +
      (f.indices.flatMap IndexLayout.words).length + f.immediates.length + 1 := by
    simp only [OperandForm.words, List.length_cons, List.length_append]
  change (IndexLayout.words i).length ≤ _
  rw [List.length_append]
  omega

end Operand

namespace OperandForm

variable {ι : Type} [IndexLayout ι] (f : OperandForm ι)

theorem swizzle_raw : f.raw.swizzle = f.components.swizzle := by
  unfold RawOperand.swizzle
  rcases hc : f.components with _ | _ | (m | ⟨x, y, z, w⟩ | c) <;>
    simp [raw, hc, Components.code, Components.mode, Components.bits, Components.swizzle,
      ComponentSelection.mode, ComponentSelection.bits, RawOperand.selMask, RawOperand.selSwizzle,
      RawOperand.selSingle]
  · -- two bits per lane, x lowest
    refine ⟨?_, ?_, ?_, ?_⟩ <;> omega
  · rw [Nat.mod_eq_of_lt c.isLt]

theorem mask_raw : f.raw.mask = f.components.mask := by
  unfold RawOperand.mask
  rcases hc : f.components with _ | _ | (m | ⟨x, y, z, w⟩ | c) <;>
    simp [raw, hc, Components.code, Components.mode, Components.bits, Components.mask,
      ComponentSelection.mode, ComponentSelection.bits, RawOperand.selMask, RawOperand.selSwizzle,
      RawOperand.selSingle]

theorem registerRef_raw (r : RegisterKind) : f.raw.registerRef (r.ref f.index).file = r.ref f.index := by
  cases r <;> rfl

/-- What a reader returns for a form that it reads as `x`: that value and the
words after the form, or, when it does not take the form's type, the refusal
of that type. -/
def reading {α : Type} (x : Option α) (rest : List UInt32) :
    Except OperandFault (α × List UInt32) :=
  match x with
  | some a => .ok (a, rest)
  | none => .error (.unsupportedType f.kind.code)

omit [IndexLayout ι] in
@[simp] theorem reading_some {α : Type} (a : α) (rest : List UInt32) :
    f.reading (some a) rest = .ok (a, rest) := rfl

omit [IndexLayout ι] in
@[simp] theorem reading_none {α : Type} (rest : List UInt32) :
    f.reading (none : Option α) rest = .error (.unsupportedType f.kind.code) := rfl

end OperandForm

namespace Operand

/-- A destination reads back as the register and write mask of its form, or
is refused when its type names no register. -/
theorem dst_words (f : OperandForm IndexForm) (saturate : Bool) (rest : List UInt32) :
    dst saturate (f.words ++ rest) = f.reading (f.toDst? saturate) rest := by
  unfold dst
  rw [rawOperand_words, ok_bind_eq]
  dsimp only
  rw [f.registerFile?_raw]
  cases hk : f.kind with
  | register r => simp [OperandForm.toDst?, hk, f.registerRef_raw, f.mask_raw, pure_eq_ok]
  | _ => simp [OperandForm.toDst?, hk, OperandForm.raw]

/-- A source reads back as what its form reads, with the swizzle of its
selection and the modifier of its chain, or is refused when its type is a
resource or a sampler. -/
theorem src_words (f : OperandForm IndexForm) (rest : List UInt32) :
    src (f.words ++ rest) = f.reading (f.toSrc?) rest := by
  unfold src
  rw [rawOperand_words, ok_bind_eq]
  dsimp only
  rw [f.registerFile?_raw, f.swizzle_raw]
  rcases hk : f.kind with (_ | _ | _ | _ | _ | _) | _ | _ | _ | _ | _ <;>
    simp [hk, OperandForm.toSrc?, OperandForm.srcKind?, f.registerRef_raw, pure_eq_ok, ok_bind_eq,
      error_bind_eq, OperandKind.code,
      RegisterKind.code, OperandType.temp, OperandType.input, OperandType.output,
      OperandType.indexableTemp, OperandType.outputDepth, OperandType.null,
      OperandType.immediate32, OperandType.sampler, OperandType.resource,
      OperandType.constantBuffer, OperandType.immediateConstantBuffer]
  case immediate32 =>
    -- the immediate words are there, one replicated or four
    obtain ⟨⟨a, b, c, d⟩, hv, -⟩ := Operand.immediates_words f hk []
    simp [hv]

/-- The constant-buffer source `cb2[5].xyzw` in the builders' layout. -/
example : src [0x208E46, 2, 5] =
    .ok (⟨.constantBuffer 2 (.ofImm 5), ⟨0, 1, 2, 3⟩, .none⟩, []) := by rfl

/-- A texture reads back as the slot and swizzle of a resource form, and any
other type is refused. -/
theorem texture_words (f : OperandForm IndexForm) (rest : List UInt32) :
    texture (f.words ++ rest) = f.reading (f.toTexture?) rest := by
  unfold texture
  rw [rawOperand_words, ok_bind_eq]
  dsimp only
  rw [OperandForm.ty_raw]
  by_cases hk : f.kind = .resource
  · rw [if_neg (not_not.mpr (OperandKind.code_eq_resource.mpr hk)), OperandForm.toTexture?,
      if_pos hk, f.swizzle_raw]
    rfl
  · rw [if_pos (mt OperandKind.code_eq_resource.mp hk), throw_bind_eq, OperandForm.toTexture?,
      if_neg hk]
    rfl

/-- A sampler reads back as the slot of a sampler form, and any other type is
refused. -/
theorem sampler_words (f : OperandForm IndexForm) (rest : List UInt32) :
    sampler (f.words ++ rest) = f.reading (f.toSampler?) rest := by
  unfold sampler
  rw [rawOperand_words, ok_bind_eq]
  dsimp only
  rw [OperandForm.ty_raw]
  by_cases hk : f.kind = .sampler
  · rw [if_neg (not_not.mpr (OperandKind.code_eq_sampler.mpr hk)), OperandForm.toSampler?,
      if_pos hk]
    rfl
  · rw [if_pos (mt OperandKind.code_eq_sampler.mp hk), throw_bind_eq, OperandForm.toSampler?,
      if_neg hk]
    rfl

end Operand

end ShaderRecovery
