/-
LintMend.Decimal.Reading — from decimal notation to binary numbers.

  `floatOfDecimal` — the nearest binary number to `digits · 10^exponent`
  `floatOfInt?`    — the nearest binary number to an integer, if it is in range
  `intOfFloat?`    — whole binary numbers as integers
-/
import LintMend.Decimal.Shortest

namespace LintMend

/-- Positive infinity. -/
def infinity : Float := 1.0 / 0.0

/-- Not a number. -/
def notANumber : Float := 0.0 / 0.0

/-- The binary number nearest to `digits · 10^exponent`, with a sign. Beyond the largest it is
infinite, below the smallest it is zero. -/
def floatOfDecimal (negative : Bool) (digits : Nat) (exponent : Int) : Float :=
  let size : Int := (Nat.toDigits 10 digits).length + exponent
  let x : Float :=
    if digits = 0 ∨ size < -400 then 0.0
    else if size > 400 then infinity
    else
      match exponent with
      | .ofNat e => Float.ofScientific (digits * Nat.pow 10 e) false 0
      | .negSucc e => Float.ofScientific digits true (e + 1)
  if negative then -x else x

/-- The binary number nearest to an integer; `none` if the integer is too large for any. -/
def floatOfInt? (n : Int) : Option Float :=
  let x := floatOfDecimal (n < 0) n.natAbs 0
  if x.isInf then none else some x

/-- The integer that a whole binary number is; `none` for a number with a fraction and for what
is no number. -/
def intOfFloat? (x : Float) : Option Int :=
  let bits := x.toBits.toNat
  let exponentBits : Nat := bits / Nat.pow 2 52 % Nat.pow 2 11
  let fraction : Nat := bits % Nat.pow 2 52
  let signed (n : Nat) : Int := if bits / Nat.pow 2 63 = 1 then -(n : Int) else n
  if exponentBits = 2047 then none
  else
    let m := if exponentBits = 0 then fraction else Nat.pow 2 52 + fraction
    let q : Int := if exponentBits = 0 then -1074 else (exponentBits : Int) - 1075
    match q with
    | .ofNat e => some (signed (m * Nat.pow 2 e))
    | .negSucc e =>
      let unit := Nat.pow 2 (e + 1)
      if m % unit = 0 then some (signed (m / unit)) else none

end LintMend
