import Mathlib
import ShaderRecovery.Text.Utf8

/-!
# Decoding the bytes of a string

Lean strings are sequences of Unicode scalar values stored as UTF-8. The
decoder of `Text.Utf8` reads bytes one sequence at a time and checks every
sequence against the well-formed table of the Unicode standard. This module
shows that the two agree: each scalar value's encoding is one well-formed
sequence, decoded back to that value, so decoding the bytes of a string gives
the string.

The encoding splits the value's bits over a lead byte and continuation bytes;
the cases follow `String.utf8EncodeChar`, one lemma per length. The lead bytes
`E0`, `ED`, `F0` and `F4` narrow the range of the second byte (against
overlong forms, surrogates and values past `U+10FFFF`); the encoding never
produces what they exclude.

Principal result: `decodeLossy_toUTF8` (decoding the UTF-8 bytes of a string
gives the string, with no replacement character).
-/

namespace ShaderRecovery

namespace Utf8

/-! ## Bytes as numbers -/

theorem toNat_ofNat_small {n : Nat} (h : n < 256) : (UInt8.ofNat n).toNat = n := by
  rw [UInt8.toNat_ofNat', Nat.mod_eq_of_lt h]

theorem toNat_and_low (b : UInt8) (k : Nat) (hk : k ≤ 8) :
    (b &&& UInt8.ofNat (2 ^ k - 1)).toNat = b.toNat % 2 ^ k := by
  rw [UInt8.toNat_and, UInt8.toNat_ofNat', Nat.mod_eq_of_lt]
  · exact Nat.and_two_pow_sub_one_eq_mod _ _
  · have : 2 ^ k ≤ 2 ^ 8 := Nat.pow_le_pow_right (by decide) hk
    omega

theorem low6_eq (b : UInt8) : low6 b = b.toNat % 64 := toNat_and_low b 6 (by decide)

theorem leadBits_zero (b : UInt8) : leadBits b 0 = b.toNat % 32 := toNat_and_low b 5 (by decide)

theorem leadBits_one (b : UInt8) : leadBits b 1 = b.toNat % 16 := toNat_and_low b 4 (by decide)

theorem leadBits_two (b : UInt8) : leadBits b 2 = b.toNat % 8 := toNat_and_low b 3 (by decide)

theorem inRange_iff (lo hi b : UInt8) :
    inRange lo hi b = true ↔ lo.toNat ≤ b.toNat ∧ b.toNat ≤ hi.toNat := by
  simp [inRange, UInt8.le_iff_toNat_le]

/-! ## Lead bytes -/

theorem leadInfo_two {n : Nat} (h₁ : 0xC2 ≤ n) (h₂ : n ≤ 0xDF) :
    leadInfo (UInt8.ofNat n) = some (0x80, 0xBF, 0) := by
  have table : ∀ k < 30, leadInfo (UInt8.ofNat (k + 0xC2)) = some (0x80, 0xBF, 0) := by decide
  have := table (n - 0xC2) (by omega)
  rwa [Nat.sub_add_cancel h₁] at this

/-- Lead bytes of three-byte sequences: `E0` and `ED` narrow the second byte. -/
theorem leadInfo_three {n : Nat} (h₁ : 0xE0 ≤ n) (h₂ : n ≤ 0xEF) :
    leadInfo (UInt8.ofNat n) =
      some (if n = 0xE0 then 0xA0 else 0x80, if n = 0xED then 0x9F else 0xBF, 1) := by
  have table : ∀ k < 16, leadInfo (UInt8.ofNat (k + 0xE0)) =
      some (if k + 0xE0 = 0xE0 then 0xA0 else 0x80, if k + 0xE0 = 0xED then 0x9F else 0xBF, 1) := by
    decide
  have := table (n - 0xE0) (by omega)
  rwa [Nat.sub_add_cancel h₁] at this

/-- Lead bytes of four-byte sequences: `F0` and `F4` narrow the second byte. -/
theorem leadInfo_four {n : Nat} (h₁ : 0xF0 ≤ n) (h₂ : n ≤ 0xF4) :
    leadInfo (UInt8.ofNat n) =
      some (if n = 0xF0 then 0x90 else 0x80, if n = 0xF4 then 0x8F else 0xBF, 2) := by
  have table : ∀ k < 5, leadInfo (UInt8.ofNat (k + 0xF0)) =
      some (if k + 0xF0 = 0xF0 then 0x90 else 0x80, if k + 0xF0 = 0xF4 then 0x8F else 0xBF, 2) := by
    decide
  have := table (n - 0xF0) (by omega)
  rwa [Nat.sub_add_cancel h₁] at this

/-! ## One step per sequence length -/

theorem step_lead {b c : UInt8} {cs : List UInt8} {lo hi : UInt8} {more : Nat}
    (hb : 0x80 ≤ b.toNat) (hl : leadInfo b = some (lo, hi, more)) (hc : inRange lo hi c = true) :
    step b (c :: cs) = ((continuation more (leadBits b more * 64 + low6 c) cs).1.map Char.ofNat,
      (continuation more (leadBits b more * 64 + low6 c) cs).2) := by
  have : ¬ b < 0x80 := by rw [UInt8.lt_iff_toNat_lt]; simp; omega
  simp only [step, this, ↓reduceIte, hl, hc]

theorem continuation_cont {n acc : Nat} {b : UInt8} {bs : List UInt8}
    (hb : 0x80 ≤ b.toNat ∧ b.toNat ≤ 0xBF) :
    continuation (n + 1) acc (b :: bs) = continuation n (acc * 64 + b.toNat % 64) bs := by
  have : inRange 0x80 0xBF b = true := by rw [inRange_iff]; exact hb
  simp only [continuation, this, ↓reduceIte, low6_eq]

theorem step_one {v : Nat} (h : v ≤ 0x7F) (rest : List UInt8) :
    step (UInt8.ofNat v) rest = (some (Char.ofNat v), rest) := by
  have hb : (UInt8.ofNat v).toNat = v := toNat_ofNat_small (by omega)
  have hlt : UInt8.ofNat v < 0x80 := by rw [UInt8.lt_iff_toNat_lt, hb]; exact Nat.lt_succ_of_le h
  rw [step, if_pos hlt, hb]

theorem step_two {v : Nat} (h₁ : 0x7F < v) (h₂ : v ≤ 0x7FF) (rest : List UInt8) :
    step (UInt8.ofNat (v / 64 % 32 + 0xC0)) (UInt8.ofNat (v % 64 + 0x80) :: rest) =
      (some (Char.ofNat v), rest) := by
  have hb₀ : (UInt8.ofNat (v / 64 % 32 + 0xC0)).toNat = v / 64 % 32 + 0xC0 :=
    toNat_ofNat_small (by omega)
  have hb₁ : (UInt8.ofNat (v % 64 + 0x80)).toNat = v % 64 + 0x80 := toNat_ofNat_small (by omega)
  rw [step_lead (by omega) (leadInfo_two (by omega) (by omega)) (by rw [inRange_iff, hb₁]; simp; omega)]
  simp only [continuation, leadBits_zero, low6_eq, hb₀, hb₁, Option.map_some]
  congr 3
  omega

theorem step_three {v : Nat} (h₁ : 0x7FF < v) (h₂ : v ≤ 0xFFFF) (hs : v < 0xD800 ∨ 0xDFFF < v)
    (rest : List UInt8) :
    step (UInt8.ofNat (v / 4096 % 16 + 0xE0))
        (UInt8.ofNat (v / 64 % 64 + 0x80) :: UInt8.ofNat (v % 64 + 0x80) :: rest) =
      (some (Char.ofNat v), rest) := by
  have hb₀ : (UInt8.ofNat (v / 4096 % 16 + 0xE0)).toNat = v / 4096 % 16 + 0xE0 :=
    toNat_ofNat_small (by omega)
  have hb₁ : (UInt8.ofNat (v / 64 % 64 + 0x80)).toNat = v / 64 % 64 + 0x80 := toNat_ofNat_small (by omega)
  have hb₂ : (UInt8.ofNat (v % 64 + 0x80)).toNat = v % 64 + 0x80 := toNat_ofNat_small (by omega)
  -- the second byte is in the range its lead byte allows: at least `A0` after `E0`
  -- (no overlong form), at most `9F` after `ED` (no surrogate)
  have hr : inRange (if v / 4096 % 16 + 0xE0 = 0xE0 then 0xA0 else 0x80)
      (if v / 4096 % 16 + 0xE0 = 0xED then 0x9F else 0xBF) (UInt8.ofNat (v / 64 % 64 + 0x80)) = true := by
    rw [inRange_iff, hb₁]
    by_cases hE0 : v / 4096 % 16 + 0xE0 = 0xE0 <;> by_cases hED : v / 4096 % 16 + 0xE0 = 0xED <;>
      simp only [hE0, hED, ↓reduceIte, Nat.reduceEqDiff, UInt8.reduceToNat] <;> omega
  rw [step_lead (by omega) (leadInfo_three (by omega) (by omega)) hr, continuation_cont (by omega)]
  simp only [continuation, leadBits_one, low6_eq, hb₀, hb₁, hb₂, Option.map_some]
  congr 3
  omega

theorem step_four {v : Nat} (h₁ : 0xFFFF < v) (h₂ : v < 0x110000) (rest : List UInt8) :
    step (UInt8.ofNat (v / 262144 % 8 + 0xF0))
        (UInt8.ofNat (v / 4096 % 64 + 0x80) :: UInt8.ofNat (v / 64 % 64 + 0x80) ::
          UInt8.ofNat (v % 64 + 0x80) :: rest) =
      (some (Char.ofNat v), rest) := by
  have hb₀ : (UInt8.ofNat (v / 262144 % 8 + 0xF0)).toNat = v / 262144 % 8 + 0xF0 :=
    toNat_ofNat_small (by omega)
  have hb₁ : (UInt8.ofNat (v / 4096 % 64 + 0x80)).toNat = v / 4096 % 64 + 0x80 :=
    toNat_ofNat_small (by omega)
  have hb₂ : (UInt8.ofNat (v / 64 % 64 + 0x80)).toNat = v / 64 % 64 + 0x80 := toNat_ofNat_small (by omega)
  have hb₃ : (UInt8.ofNat (v % 64 + 0x80)).toNat = v % 64 + 0x80 := toNat_ofNat_small (by omega)
  -- at least `90` after `F0` (no overlong form), at most `8F` after `F4` (no value past `U+10FFFF`)
  have hr : inRange (if v / 262144 % 8 + 0xF0 = 0xF0 then 0x90 else 0x80)
      (if v / 262144 % 8 + 0xF0 = 0xF4 then 0x8F else 0xBF) (UInt8.ofNat (v / 4096 % 64 + 0x80)) = true := by
    rw [inRange_iff, hb₁]
    by_cases hF0 : v / 262144 % 8 + 0xF0 = 0xF0 <;> by_cases hF4 : v / 262144 % 8 + 0xF0 = 0xF4 <;>
      simp only [hF0, hF4, ↓reduceIte, Nat.reduceEqDiff, UInt8.reduceToNat] <;> omega
  rw [step_lead (by omega) (leadInfo_four (by omega) (by omega)) hr, continuation_cont (by omega),
    continuation_cont (by omega)]
  simp only [continuation, leadBits_two, low6_eq, hb₀, hb₁, hb₂, hb₃, Option.map_some]
  congr 3
  omega

/-- The encoding of a scalar value is one step of the decoder, which gives the
value back. -/
theorem step_utf8EncodeChar (c : Char) (rest : List UInt8) :
    ∃ b bs, String.utf8EncodeChar c = b :: bs ∧ step b (bs ++ rest) = (some c, rest) := by
  have hvalid : c.toNat < 0xD800 ∨ (0xDFFF < c.toNat ∧ c.toNat < 0x110000) := c.valid
  have hc := Char.ofNat_toNat c
  unfold String.utf8EncodeChar
  simp only [← Char.toNat.eq_1]
  generalize c.toNat = v at hvalid hc ⊢
  subst hc
  by_cases h₁ : v ≤ 0x7F
  · rw [if_pos h₁]
    exact ⟨_, [], rfl, step_one h₁ rest⟩
  rw [if_neg h₁]
  by_cases h₂ : v ≤ 0x7FF
  · rw [if_pos h₂]
    exact ⟨_, [_], rfl, step_two (by omega) h₂ rest⟩
  rw [if_neg h₂]
  by_cases h₃ : v ≤ 0xFFFF
  · rw [if_pos h₃]
    exact ⟨_, [_, _], rfl, step_three (by omega) h₃ (by omega) rest⟩
  rw [if_neg h₃]
  exact ⟨_, [_, _, _], rfl, step_four (by omega) (by omega) rest⟩

/-! ## Whole strings -/

theorem decodeChars_utf8EncodeChar (c : Char) (rest : List UInt8) :
    decodeChars (String.utf8EncodeChar c ++ rest) = c :: decodeChars rest := by
  obtain ⟨b, bs, he, hs⟩ := step_utf8EncodeChar c rest
  rw [he, List.cons_append, decodeChars]
  split
  rename_i c' rest' h
  rw [hs] at h
  cases h
  rfl

theorem decodeChars_flatMap (cs : List Char) :
    decodeChars (cs.flatMap String.utf8EncodeChar) = cs := by
  induction cs with
  | nil => simp [decodeChars]
  | cons c cs ih => rw [List.flatMap_cons, decodeChars_utf8EncodeChar, ih]

theorem bytes_toUTF8 (s : String) :
    s.toUTF8.data.toList = s.toList.flatMap String.utf8EncodeChar := by
  rw [String.toUTF8_eq_toByteArray, ← String.utf8Encode_toList, List.utf8Encode,
    List.toList_data_toByteArray]

/-- Decoding the UTF-8 bytes of a string gives the string: nothing is replaced. -/
theorem decodeLossy_toUTF8 (s : String) : decodeLossy s.toUTF8.data.toList = s := by
  rw [decodeLossy, bytes_toUTF8, decodeChars_flatMap, String.ofList_toList]

end Utf8

end ShaderRecovery
