/-!
# Single-precision values

A `Binary32` is an IEEE 754 single-precision datum kept as its 32 bits. Every
finite datum is an integer multiple of the smallest subnormal `2^-149`, so its
magnitude is a natural number in that unit and all comparisons the library
needs (with zero, with small whole numbers, with another datum) are exact
`Nat` comparisons.

Principal results: `isWhole_iff` (a whole value is a finite multiple of
`2^149` units) and `eqv_comm` (IEEE equality is symmetric).
-/

namespace ShaderRecovery

/-- A single-precision value, stored as its IEEE 754 bit pattern. -/
structure Binary32 where
  bits : UInt32
  deriving DecidableEq, Repr, Inhabited

namespace Binary32

/-- Units of the smallest subnormal in one: `2^149`. -/
def unit : Nat := Nat.pow 2 149

/-- What a bit pattern denotes: a NaN, a signed infinity, or a signed finite
magnitude counted in units of `2^-149`. -/
inductive Kind where
  | nan
  | infinite (negative : Bool)
  | finite (negative : Bool) (mag : Nat)
  deriving DecidableEq, Repr

/-- The sign bit. -/
def signBit (x : Binary32) : Bool := x.bits >>> 31 == 1

/-- The biased exponent field, bits 23 to 30. -/
def expField (x : Binary32) : Nat := ((x.bits >>> 23) &&& 0xff).toNat

/-- The fraction field, bits 0 to 22. -/
def fracField (x : Binary32) : Nat := (x.bits &&& 0x7fffff).toNat

/-- Decodes the bit pattern: exponent all ones is an infinity or a NaN,
exponent zero a subnormal, anything else a normal value with the hidden bit. -/
def kind (x : Binary32) : Kind :=
  if x.expField = 255 then
    if x.fracField = 0 then .infinite x.signBit else .nan
  else if x.expField = 0 then .finite x.signBit x.fracField
  else .finite x.signBit ((0x800000 + x.fracField) * Nat.pow 2 (x.expField - 1))

def isNaN (x : Binary32) : Bool := x.kind == .nan

def isFinite (x : Binary32) : Bool :=
  match x.kind with
  | .finite _ _ => true
  | _ => false

def isInfinite (x : Binary32) : Bool :=
  match x.kind with
  | .infinite _ => true
  | _ => false

/-- Subnormal: exponent field zero and a non-zero fraction. -/
def isSubnormal (x : Binary32) : Bool := x.expField = 0 && x.fracField ≠ 0

/-- Magnitude of a finite value in units of `2^-149`; zero otherwise. -/
def mag (x : Binary32) : Nat :=
  match x.kind with
  | .finite _ m => m
  | _ => 0

/-- IEEE equality: NaN equals nothing, the two zeros are equal, and otherwise
equal values have equal bits. -/
def eqv (x y : Binary32) : Bool :=
  match x.kind, y.kind with
  | .finite s m, .finite t n => m == n && (s == t || m == 0)
  | .infinite s, .infinite t => s == t
  | _, _ => false

/-- IEEE equality with a whole number `n`. -/
def isNat (x : Binary32) (n : Nat) : Bool :=
  match x.kind with
  | .finite s m => m == n * unit && (!s || n == 0)
  | _ => false

/-- Strictly above zero (`+∞` included). -/
def isPositive (x : Binary32) : Bool :=
  match x.kind with
  | .finite false m => m != 0
  | .infinite false => true
  | _ => false

/-- Strictly below zero (`-∞` included). -/
def isNegative (x : Binary32) : Bool :=
  match x.kind with
  | .finite true m => m != 0
  | .infinite true => true
  | _ => false

/-- A finite value with no fractional part. -/
def isWhole (x : Binary32) : Bool :=
  match x.kind with
  | .finite _ m => m % unit == 0
  | _ => false

/-- The whole part of the magnitude, rounding toward zero. -/
def truncMag (x : Binary32) : Nat := x.mag / unit

/-- Conversion to a 32-bit signed integer that rounds toward zero and
saturates: NaN gives 0 and out-of-range values give the nearest bound. -/
def toInt32Sat (x : Binary32) : Int :=
  match x.kind with
  | .nan => 0
  | .infinite false => 2147483647
  | .infinite true => -2147483648
  | .finite false m => min (m / unit : Nat) 2147483647
  | .finite true m => max (-((m / unit : Nat) : Int)) (-2147483648)

/-- `+0.0`. -/
def zero : Binary32 := ⟨0⟩

/-- A whole number below `2^24`, which single precision holds exactly: the
exponent is the position of the leading bit, the fraction the bits below it. -/
def ofWhole (n : Nat) : Binary32 :=
  if n = 0 then zero
  else
    let e := Nat.log2 n
    ⟨UInt32.ofNat ((127 + e) * 0x800000 + (n - Nat.pow 2 e) * 0x800000 / Nat.pow 2 e)⟩

example : (ofWhole 1).bits = 0x3F800000 ∧ (ofWhole 15).bits = 0x41700000 ∧
    (ofWhole 255).bits = 0x437F0000 := by decide

example : (ofWhole 8).isNat 8 = true := by decide

/-- `1e-4` rounded to single precision. -/
def tenThousandth : Binary32 := ⟨0x38D1B717⟩

/-- `1e16` rounded to single precision. -/
def tenPow16 : Binary32 := ⟨0x5A0E1BCA⟩

theorem kind_ofBits_zero : (⟨0⟩ : Binary32).kind = .finite false 0 := by decide

theorem eqv_comm (x y : Binary32) : x.eqv y = y.eqv x := by
  unfold eqv
  cases x.kind <;> cases y.kind <;> simp [Bool.beq_comm]
  all_goals grind

theorem isWhole_iff (x : Binary32) :
    x.isWhole = true ↔ ∃ s m, x.kind = .finite s m ∧ m % unit = 0 := by
  unfold isWhole
  cases x.kind with
  | finite s m => cases s <;> simp
  | _ => simp

end Binary32

end ShaderRecovery
