/-!
# UTF-8 decoding

Bytes are decoded one scalar value at a time. A step either reads a
well-formed sequence (one to four bytes, no overlong form, no surrogate, at
most `U+10FFFF`) or stops at the first byte that cannot continue the
sequence; the bytes read so far are then one maximal ill-formed subpart.

`Utf8.decodeLossy` replaces each maximal subpart by `U+FFFD`, the practice
the Unicode standard recommends; `Utf8.decode?` refuses any ill-formed input.

Principal result: `step_rest_lt` (each step consumes at least one byte, so
both decoders are structural on the input length).
-/

namespace ShaderRecovery

namespace Utf8

/-- A continuation byte `10xxxxxx` within the bounds `lo ..= hi`. -/
def inRange (lo hi : UInt8) (b : UInt8) : Bool := lo ≤ b && b ≤ hi

/-- The replacement character. -/
def replacement : Char := '�'

/-- The low six bits of a continuation byte. -/
def low6 (b : UInt8) : Nat := (b &&& 0x3f).toNat

/-- Bounds of the second byte after a given lead byte, with the number of
further continuation bytes: `none` for a byte that cannot lead. -/
def leadInfo (b : UInt8) : Option (UInt8 × UInt8 × Nat) :=
  if 0xC2 ≤ b && b ≤ 0xDF then some (0x80, 0xBF, 0)
  else if b = 0xE0 then some (0xA0, 0xBF, 1)
  else if b = 0xED then some (0x80, 0x9F, 1)
  else if 0xE1 ≤ b && b ≤ 0xEF then some (0x80, 0xBF, 1)
  else if b = 0xF0 then some (0x90, 0xBF, 2)
  else if b = 0xF4 then some (0x80, 0x8F, 2)
  else if 0xF1 ≤ b && b ≤ 0xF3 then some (0x80, 0xBF, 2)
  else none

/-- Payload bits of a lead byte that announces `more + 2` bytes in all. -/
def leadBits (b : UInt8) (more : Nat) : Nat :=
  match more with
  | 0 => (b &&& 0x1f).toNat
  | 1 => (b &&& 0x0f).toNat
  | _ => (b &&& 0x07).toNat

/-- Reads `n` continuation bytes, accumulating their bits onto `acc`. Returns
the value and the rest, or the rest at the first byte that does not continue. -/
def continuation : Nat → Nat → List UInt8 → Option Nat × List UInt8
  | 0, acc, bs => (some acc, bs)
  | n + 1, acc, b :: bs =>
    if inRange 0x80 0xBF b then continuation n (acc * 64 + low6 b) bs
    else (none, b :: bs)
  | _ + 1, _, [] => (none, [])

theorem continuation_rest_le (n acc : Nat) (bs : List UInt8) :
    (continuation n acc bs).2.length ≤ bs.length := by
  induction n generalizing acc bs with
  | zero => simp [continuation]
  | succ n ih =>
    cases bs with
    | nil => simp [continuation]
    | cons b bs =>
      unfold continuation
      split
      · exact Nat.le_trans (ih _ bs) (Nat.le_succ _)
      · simp

/-- One decoding step on a non-empty input: `some c` for a well-formed
sequence, `none` for a maximal ill-formed subpart, with the rest. -/
def step (b : UInt8) (bs : List UInt8) : Option Char × List UInt8 :=
  if b < 0x80 then (some (Char.ofNat b.toNat), bs)
  else match leadInfo b with
    | none => (none, bs)
    | some (lo, hi, more) =>
      match bs with
      | [] => (none, [])
      | c :: cs =>
        if inRange lo hi c then
          let r := continuation more (leadBits b more * 64 + low6 c) cs
          (r.1.map Char.ofNat, r.2)
        else (none, c :: cs)

theorem step_rest_lt (b : UInt8) (bs : List UInt8) :
    (step b bs).2.length < (b :: bs).length := by
  unfold step
  split
  · simp
  · split
    · simp
    · split
      · simp
      · rename_i c cs
        split
        · exact Nat.lt_of_le_of_lt (continuation_rest_le _ _ cs) (by simp only [List.length_cons]; omega)
        · simp

/-- Decodes, replacing each maximal ill-formed subpart by `U+FFFD`. -/
def decodeChars : List UInt8 → List Char
  | [] => []
  | b :: bs =>
    match h : step b bs with
    | (c, rest) =>
      have : rest.length < (b :: bs).length := by
        have := step_rest_lt b bs
        rw [h] at this
        exact this
      c.getD replacement :: decodeChars rest
termination_by bs => bs.length
decreasing_by all_goals (simp only [List.length_cons] at *; omega)

/-- Decodes, refusing ill-formed input. -/
def decodeChars? : List UInt8 → Option (List Char)
  | [] => some []
  | b :: bs =>
    match h : step b bs with
    | (c, rest) =>
      have : rest.length < (b :: bs).length := by
        have := step_rest_lt b bs
        rw [h] at this
        exact this
      match c with
      | some c => (decodeChars? rest).map (c :: ·)
      | none => none
termination_by bs => bs.length
decreasing_by all_goals (simp only [List.length_cons] at *; omega)

/-- Text of bytes, with `U+FFFD` for each ill-formed part. -/
def decodeLossy (bs : List UInt8) : String := String.ofList (decodeChars bs)

/-- Text of bytes that are well-formed UTF-8. -/
def decode? (bs : List UInt8) : Option String := (decodeChars? bs).map String.ofList

end Utf8

end ShaderRecovery
