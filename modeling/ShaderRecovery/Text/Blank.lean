/-!
# Blank characters

The characters with the Unicode property `White_Space`: the controls tab to
carriage return, the space, next line, no-break space, the ogham space mark,
the spaces from en quad to hair space, the line and paragraph separators, the
narrow no-break space, the medium mathematical space and the ideographic
space. Trimming removes them from both ends of a text.

Principal results: `isBlank_of_isWhitespace` (every character that core
counts as whitespace is blank) and `trimFront_head` (what trimming leaves
starts with a character that is not blank).
-/

namespace ShaderRecovery

namespace Blank

/-- Whether a character has the property `White_Space`. -/
def isBlank (c : Char) : Bool :=
  let n := c.toNat
  (0x09 ≤ n && n ≤ 0x0d) || n == 0x20 || n == 0x85 || n == 0xa0 || n == 0x1680 ||
    (0x2000 ≤ n && n ≤ 0x200a) || n == 0x2028 || n == 0x2029 || n == 0x202f ||
    n == 0x205f || n == 0x3000

/-- Drops blank characters from the front. -/
def trimFront (cs : List Char) : List Char := cs.dropWhile isBlank

/-- Drops blank characters from both ends. -/
def trimList (cs : List Char) : List Char := (trimFront (trimFront cs).reverse).reverse

/-- A text without its blank ends. -/
def trim (s : String) : String := String.ofList (trimList s.toList)

theorem isBlank_of_isWhitespace (c : Char) (h : c.isWhitespace = true) : isBlank c = true := by
  simp only [Char.isWhitespace, Bool.or_eq_true, decide_eq_true_eq] at h
  simp only [isBlank, Bool.or_eq_true, Bool.and_eq_true, decide_eq_true_eq, beq_iff_eq]
  rcases h with ((h | h) | h) | h <;> subst h <;> decide

theorem trimFront_head (cs : List Char) (c : Char) (rest : List Char)
    (h : trimFront cs = c :: rest) : isBlank c = false := by
  unfold trimFront at h
  have := @List.head_dropWhile_not _ isBlank cs (by simp [h])
  simp_all

example : trim "\u3000 2019.4\n\u00a0" = "2019.4" := by decide +kernel

end Blank

end ShaderRecovery
