import ShaderRecovery.Float.Binary32

/-!
# Render-state keywords

Render states store enumerated settings as floats. A keyword table names the
setting for each whole value from zero; a value that is negative, not whole,
not finite or past the table has no keyword, and each setting then falls back
to its default word.

Principal result: `lookup?_some` (a keyword is found only at a whole,
non-negative value that indexes the table).
-/

namespace ShaderRecovery

/-- A keyword table of a render setting, with the word used when a value has
no keyword. -/
structure KeywordTable where
  words : List String
  fallback : String
  deriving DecidableEq, Repr

namespace KeywordTable

/-- The depth test: the disabled function is `Off`. -/
def ztest : KeywordTable :=
  ⟨["Off", "Never", "Less", "Equal", "LEqual", "Greater", "NotEqual", "GEqual", "Always"], ""⟩

def cull : KeywordTable := ⟨["Off", "Front", "Back"], ""⟩

def stencilOp : KeywordTable :=
  ⟨["Keep", "Zero", "Replace", "IncrSat", "DecrSat", "Invert", "IncrWrap", "DecrWrap"], "Keep"⟩

/-- Comparison functions, as used by the stencil test. -/
def compare : KeywordTable :=
  ⟨["Disabled", "Never", "Less", "Equal", "LEqual", "Greater", "NotEqual", "GEqual", "Always"],
    "Always"⟩

def blendOp : KeywordTable :=
  ⟨["Add", "Sub", "RevSub", "Min", "Max", "LogicalClear", "LogicalSet", "LogicalCopy",
    "LogicalCopyInverted", "LogicalNoop", "LogicalInvert", "LogicalAnd", "LogicalNand",
    "LogicalOr", "LogicalNor", "LogicalXor", "LogicalEquiv", "LogicalAndReverse",
    "LogicalAndInverted", "LogicalOrReverse", "LogicalOrInverted"], "Add"⟩

def blendFactor : KeywordTable :=
  ⟨["Zero", "One", "DstColor", "SrcColor", "OneMinusDstColor", "SrcAlpha", "OneMinusSrcColor",
    "DstAlpha", "OneMinusDstAlpha", "SrcAlphaSaturate", "OneMinusSrcAlpha"], "One"⟩

/-- The keyword of a value, if it is whole, not negative and in the table.
Negative zero is zero. -/
def lookup? (t : KeywordTable) (x : Binary32) : Option String :=
  if x.isNegative || !x.isWhole then none else t.words[x.truncMag]?

/-- The keyword of a value, or the table's fallback. -/
def keyword (t : KeywordTable) (x : Binary32) : String := (t.lookup? x).getD t.fallback

theorem lookup?_some (t : KeywordTable) (x : Binary32) (w : String) (h : t.lookup? x = some w) :
    x.isNegative = false ∧ x.isWhole = true ∧ t.words[x.truncMag]? = some w := by
  unfold lookup? at h
  split at h
  · simp at h
  · rename_i hc
    simp only [Bool.or_eq_true, Bool.not_eq_true', not_or, Bool.not_eq_false] at hc
    exact ⟨by simpa using hc.1, hc.2, h⟩

example : cull.keyword ⟨0x3F800000⟩ = "Front" := by decide +kernel
example : stencilOp.keyword ⟨0x40200000⟩ = "Keep" := by decide +kernel

end KeywordTable

end ShaderRecovery
