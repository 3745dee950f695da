import ShaderRecovery.Float.Binary32

/-!
# Shortest decimal of a single-precision value

The shortest decimal of a finite non-zero value is the decimal with the fewest
significant digits inside the value's rounding interval: the reals that read
back as the same datum. The interval reaches half way to each neighbour; when
the fraction field is zero the lower neighbour is taken at half the spacing,
and the ends belong to the interval exactly when the significand is even.

The search runs over the decimal grids `10^k`, coarsest first. On each grid only
the two grid points around the value can lie in the interval: if any grid point
does, so does the nearer of those two, since the interval is convex and holds
the value. The first grid with a hit gives the digits; of two hits the nearer
wins, and an exact tie goes up. All arithmetic is exact on `Nat`, with
magnitudes scaled to units of `2^-151`.

Principal results: `Decimal.normalize_value` (dropping trailing zeros keeps
`digits × 10^exp`) and `grid_floor_le` (the lower grid point never exceeds the
value).
-/

namespace ShaderRecovery

/-- The decimal number `digits × 10^exp`. -/
structure Decimal where
  digits : Nat
  exp : Int
  deriving DecidableEq, Repr

namespace Decimal

/-- Drops trailing zero digits, raising the exponent to keep the value. -/
def normalize (d : Decimal) : Decimal :=
  if h : d.digits ≠ 0 ∧ d.digits % 10 = 0 then
    normalize ⟨d.digits / 10, d.exp + 1⟩
  else d
termination_by d.digits
decreasing_by exact Nat.div_lt_self (Nat.pos_of_ne_zero h.1) (by decide)

/-- Normalizing divides the digits by a power of ten and raises the exponent
by as much, so the value `digits × 10^exp` is kept. -/
theorem normalize_value (d : Decimal) :
    ∃ t : Nat, d.digits = d.normalize.digits * Nat.pow 10 t ∧ d.normalize.exp = d.exp + t := by
  induction d using normalize.induct with
  | case1 d h ih =>
    obtain ⟨t, hd, he⟩ := ih
    have step : normalize d = normalize ⟨d.digits / 10, d.exp + 1⟩ := by
      rw [normalize, dif_pos h]
    rw [step]
    refine ⟨t + 1, ?_, by simp only at he; omega⟩
    have h10 := h.2
    calc d.digits = d.digits / 10 * 10 := by omega
      _ = (normalize ⟨d.digits / 10, d.exp + 1⟩).digits * Nat.pow 10 (t + 1) := by
        rw [Nat.pow_eq, Nat.pow_succ, ← Nat.mul_assoc, ← Nat.pow_eq, ← hd]
  | case2 d h => exact ⟨0, by rw [normalize, dif_neg h]; simp, by rw [normalize, dif_neg h]; simp⟩

/-- Number of significant digits. -/
def digitCount (d : Decimal) : Nat := (Nat.toDigits 10 d.digits).length

end Decimal

namespace Shortest

/-- Units of `2^-151` in one: the scale at which a quarter of the spacing of
the smallest subnormals is whole. -/
def scale : Nat := Nat.pow 2 151

/-- The rounding interval of a value, in units of `2^-151`. -/
structure Interval where
  lo : Nat
  value : Nat
  hi : Nat
  inclusive : Bool
  deriving DecidableEq, Repr

/-- Compares `j × 10^k` with `b × 2^-151` exactly. -/
def compareGrid (j : Nat) (k : Int) (b : Nat) : Ordering :=
  if k ≥ 0 then compare (j * Nat.pow 10 k.toNat * scale) b
  else compare (j * scale) (b * Nat.pow 10 (-k).toNat)

/-- The largest `j` with `j × 10^k ≤ v × 2^-151`. -/
def gridFloor (v : Nat) (k : Int) : Nat :=
  if k ≥ 0 then v / (Nat.pow 10 k.toNat * scale) else v * Nat.pow 10 (-k).toNat / scale

theorem grid_floor_le (v : Nat) (k : Int) : compareGrid (gridFloor v k) k v ≠ .gt := by
  unfold compareGrid gridFloor
  split
  · intro h
    rw [Nat.compare_eq_gt, Nat.mul_assoc] at h
    have := Nat.div_mul_le_self v (Nat.pow 10 k.toNat * scale)
    omega
  · intro h
    rw [Nat.compare_eq_gt] at h
    have := Nat.div_mul_le_self (v * Nat.pow 10 (-k).toNat) scale
    omega

/-- `j × 10^k` is not below the low end. -/
def aboveLow (iv : Interval) (j : Nat) (k : Int) : Bool :=
  match compareGrid j k iv.lo with
  | .gt => true
  | .eq => iv.inclusive
  | .lt => false

/-- `j × 10^k` is not above the high end. -/
def belowHigh (iv : Interval) (j : Nat) (k : Int) : Bool :=
  match compareGrid j k iv.hi with
  | .lt => true
  | .eq => iv.inclusive
  | .gt => false

/-- The point chosen on grid `10^k`, if either neighbour of the value lies in
the interval. Of two, the nearer; a tie goes up. -/
def onGrid (iv : Interval) (k : Int) : Option Nat :=
  let f := gridFloor iv.value k
  let low := aboveLow iv f k
  let high := belowHigh iv (f + 1) k
  if low && high then
    -- twice the distance to the lower point, against the grid step
    let upper := match compareGrid (2 * f + 1) k (2 * iv.value) with
      | .gt => false
      | _ => true
    some (if upper then f + 1 else f)
  else if low then some f
  else if high then some (f + 1)
  else none

/-- Tries the grids `10^k`, `10^(k-1)`, … for `steps` grids. -/
def search (iv : Interval) : Nat → Int → Option Decimal
  | 0, _ => none
  | steps + 1, k =>
    match onGrid iv k with
    | some j => some ⟨j, k⟩
    | none => search iv steps (k - 1)

/-- The rounding interval of a finite value of magnitude `mag` (in units of
`2^-149`), given the exponent and fraction fields. -/
def interval (expField fracField mag : Nat) : Interval :=
  let spacing := if expField = 0 then 1 else Nat.pow 2 (expField - 1)
  let value := 4 * mag
  let lowGap := if expField ≠ 0 ∧ fracField = 0 then spacing else 2 * spacing
  ⟨value - lowGap, value, value + 2 * spacing, fracField % 2 == 0⟩

end Shortest

namespace Binary32

open Shortest in
/-- The shortest decimal of the magnitude of a finite value; zero for zero.
Grids run from `10^39`, above every finite value, down to `10^-151`, where the
value itself is a grid point, so the search always ends with a hit. -/
def shortest (x : Binary32) : Decimal :=
  if x.mag = 0 then ⟨0, 0⟩
  else
    let iv := interval x.expField x.fracField x.mag
    match search iv 191 39 with
    | some d => d.normalize
    | none => ⟨x.mag, -149⟩

end Binary32

end ShaderRecovery
