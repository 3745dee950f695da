/-!
# Code point ranges

A set of code points kept as inclusive ranges, as the tables of a character
property are. A table is ordered when every range is nonempty and starts past
the end of the one before it; an ordered table lists each code point at most
once and in increasing order.

Principal result: `CodeRanges.contains_iff` (a table contains exactly the
code points of its ranges).
-/

namespace ShaderRecovery

/-- A set of code points as inclusive ranges. -/
structure CodeRanges where
  ranges : List (Nat × Nat)

namespace CodeRanges

/-- Whether a code point lies in one of the ranges. -/
def contains (t : CodeRanges) (n : Nat) : Bool :=
  t.ranges.any fun r => r.1 ≤ n && n ≤ r.2

theorem contains_iff (t : CodeRanges) (n : Nat) :
    t.contains n = true ↔ ∃ r ∈ t.ranges, r.1 ≤ n ∧ n ≤ r.2 := by
  simp [contains]

/-- Nonempty ranges, each starting past the end of the one before. -/
def increasing : List (Nat × Nat) → Bool
  | [] => true
  | [r] => r.1 ≤ r.2
  | r :: s :: rest => r.1 ≤ r.2 && r.2 < s.1 && increasing (s :: rest)

/-- Whether the table is sorted and its ranges disjoint and nonempty. -/
def ordered (t : CodeRanges) : Bool := increasing t.ranges

end CodeRanges

end ShaderRecovery
