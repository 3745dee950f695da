/-!
# Numbers as text

Lower-case hexadecimal with a least width, and decimal with a least width
whose zero padding goes after the minus sign.

Principal result: `padLeft_length` (padding reaches the width, and never
shortens the text).
-/

namespace ShaderRecovery

namespace NumText

/-- Pads on the left with `c` up to `width` characters. -/
def padLeft (c : Char) (width : Nat) (s : String) : String :=
  String.ofList (List.replicate (width - s.length) c) ++ s

theorem padLeft_length (c : Char) (width : Nat) (s : String) :
    (padLeft c width s).length = max width s.length := by
  simp [padLeft, String.length_append]
  omega

/-- The lower-case hexadecimal digit of `d < 16`. -/
def hexDigit (d : Nat) : Char :=
  if d < 10 then Char.ofNat (48 + d) else Char.ofNat (87 + d)

/-- Lower-case hexadecimal digits of `n`, most significant first. -/
def hexDigits (n : Nat) : List Char :=
  if _h : n < 16 then [hexDigit n]
  else hexDigits (n / 16) ++ [hexDigit (n % 16)]
termination_by n
decreasing_by omega

/-- `n` in lower-case hexadecimal, zero-padded to `width` digits. -/
def hex (width : Nat) (n : Nat) : String := padLeft '0' width (String.ofList (hexDigits n))

/-- `n` in decimal, zero-padded to `width` characters counting the sign:
a negative number keeps its sign first and pads after it. -/
def decimalPadded (width : Nat) (n : Int) : String :=
  if n < 0 then "-" ++ padLeft '0' (width - 1) (toString n.natAbs)
  else padLeft '0' width (toString n.toNat)

end NumText

end ShaderRecovery
