/-!
# Little-endian words

Byte strings are `List UInt8`. A word is four bytes, least significant first.
`wordAt?` reads the word at an offset, `words` splits a string into words and
`ofWord` writes one.

Principal results: `wordAt?_ofWord_append` (a written word reads back,
whatever follows it) and `words_length` (a string of `4n` bytes has `n` words).
-/

namespace ShaderRecovery

namespace Bytes

/-- The word whose bytes, least significant first, are `b0 b1 b2 b3`. -/
def word (b0 b1 b2 b3 : UInt8) : UInt32 :=
  UInt32.ofNat (b0.toNat + 256 * b1.toNat + 65536 * b2.toNat + 16777216 * b3.toNat)

/-- Byte `i` of a word, counting from the least significant. -/
def byteOf (w : UInt32) (i : Nat) : UInt8 := UInt8.ofNat (w.toNat / Nat.pow 256 i % 256)

/-- The four bytes of a word, least significant first. -/
def ofWord (w : UInt32) : List UInt8 := [byteOf w 0, byteOf w 1, byteOf w 2, byteOf w 3]

/-- The word at the start of a byte string, if it has four bytes. -/
def headWord? : List UInt8 → Option UInt32
  | b0 :: b1 :: b2 :: b3 :: _ => some (word b0 b1 b2 b3)
  | _ => none

/-- The word at byte offset `off`, if the string holds four bytes there. -/
def wordAt? (bs : List UInt8) (off : Nat) : Option UInt32 := headWord? (bs.drop off)

/-- Splits into words; a tail of fewer than four bytes is left out. -/
def words : List UInt8 → List UInt32
  | b0 :: b1 :: b2 :: b3 :: rest => word b0 b1 b2 b3 :: words rest
  | _ => []

theorem word_ofWord (w : UInt32) :
    word (byteOf w 0) (byteOf w 1) (byteOf w 2) (byteOf w 3) = w := by
  apply UInt32.toNat_inj.mp
  have := w.toNat_lt
  simp only [word, byteOf, Nat.pow_eq, UInt32.toNat_ofNat', UInt8.toNat_ofNat', Nat.reducePow]
  omega

theorem ofWord_length (w : UInt32) : (ofWord w).length = 4 := rfl

theorem wordAt?_ofWord_append (w : UInt32) (rest : List UInt8) :
    wordAt? (ofWord w ++ rest) 0 = some w := by
  simp [wordAt?, ofWord, headWord?, word_ofWord]

theorem words_length (bs : List UInt8) : (words bs).length = bs.length / 4 := by
  induction bs using words.induct with
  | case1 b0 b1 b2 b3 rest ih => simp [words, ih]; omega
  | case2 bs h =>
    rw [words.eq_2 bs h]
    match bs, h with
    | [], _ | [_], _ | [_, _], _ | [_, _, _], _ => simp
    | _ :: _ :: _ :: _ :: _, h => exact absurd rfl (h _ _ _ _ _)

end Bytes

end ShaderRecovery
