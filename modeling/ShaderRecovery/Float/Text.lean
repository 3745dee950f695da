import ShaderRecovery.Float.Shortest

/-!
# Text of single-precision values

A value is written with its shortest decimal digits (`Binary32.shortest`); a
`FloatStyle` decides the rest: whether whole values keep a `.0`, which
magnitudes switch to exponent form, and the words for NaN and infinity.
Two styles are used: `FloatStyle.plain`, for values in shader text, and
`FloatStyle.literal`, for immediate constants in decompiled code.

Principal result: `positional_nonneg_exp` (a decimal with a non-negative
exponent is its digits followed by zeros).
-/

namespace ShaderRecovery

/-- How a single-precision value is spelled. -/
structure FloatStyle where
  /-- Whole values are written with a trailing `.0`. -/
  pointZero : Bool
  /-- Non-zero magnitudes below the first bound, or at least the second, are
  written in exponent form; `none` writes every value positionally. -/
  exponentBand : Option (Binary32 × Binary32)
  nanText : String
  /-- Positive infinity; negative infinity is this with a minus sign. -/
  infinityText : String

namespace FloatStyle

/-- Shader text: every value positional, no `.0`, infinities spelled out. -/
def plain : FloatStyle := ⟨false, none, "NaN", "Infinity"⟩

/-- Immediate constants: a `.0` on whole values and exponent form outside
`[1e-4, 1e16)`, the bounds themselves rounded to single precision. -/
def literal : FloatStyle :=
  ⟨true, some (Binary32.tenThousandth, Binary32.tenPow16), "NaN", "inf"⟩

end FloatStyle

namespace Decimal

/-- `n` zero characters. -/
def zeros (n : Nat) : String := String.ofList (List.replicate n '0')

/-- The digits of a decimal as text. -/
def digitText (d : Decimal) : String := toString d.digits

/-- Positional notation: the digits with the point placed by the exponent, and
`.0` appended to a whole value when `pointZero` is set. -/
def positional (d : Decimal) (pointZero : Bool) : String :=
  let ds := d.digitText
  if d.exp ≥ 0 then
    ds ++ zeros d.exp.toNat ++ (if pointZero then ".0" else "")
  else
    let before : Int := ds.length + d.exp
    if before > 0 then
      String.ofList (ds.toList.take before.toNat) ++ "." ++
        String.ofList (ds.toList.drop before.toNat)
    else "0." ++ zeros (-before).toNat ++ ds

/-- Exponent notation `d.ddde<n>`, the point left out for a single digit. -/
def scientific (d : Decimal) : String :=
  let ds := d.digitText.toList
  let power : Int := ds.length - 1 + d.exp
  let mantissa := match ds with
    | [] => "0"
    | [c] => String.singleton c
    | c :: rest => String.singleton c ++ "." ++ String.ofList rest
  mantissa ++ "e" ++ toString power

theorem positional_nonneg_exp (d : Decimal) (h : d.exp ≥ 0) :
    d.positional false = d.digitText ++ zeros d.exp.toNat := by
  simp [positional, h]

end Decimal

namespace Binary32

/-- The magnitude of `x` is below that of `y`; both are finite. -/
def magLt (x y : Binary32) : Bool := x.mag < y.mag

/-- Whether a finite value falls in the exponent band of a style. -/
def inExponentBand (x : Binary32) : Option (Binary32 × Binary32) → Bool
  | none => false
  | some (low, high) => (x.mag ≠ 0 && x.magLt low) || !x.magLt high

/-- The text of a value in a style: a minus sign for every negative value,
zero included, then the shortest digits. -/
def render (style : FloatStyle) (x : Binary32) : String :=
  match x.kind with
  | .nan => style.nanText
  | .infinite negative => (if negative then "-" else "") ++ style.infinityText
  | .finite negative _ =>
    let d := x.shortest
    let body := if x.inExponentBand style.exponentBand then d.scientific
      else d.positional style.pointZero
    (if negative then "-" else "") ++ body

end Binary32

end ShaderRecovery
