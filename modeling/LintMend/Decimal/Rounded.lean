/-
LintMend.Decimal.Rounded — binary numbers in decimal notation with a given number of places.

A number is rounded once, from its exact value; a half goes to the even neighbour.

  `fractionOf`     — the exact size of a number, as a fraction
  `roundedDiv`     — a quotient, rounded
  `fixedText`, `scientificText`, `generalText` — the notations
-/
import LintMend.Decimal.Shortest

namespace LintMend

/-- The exact size of a finite number, as a fraction. -/
def fractionOf (x : Float) : Nat × Nat :=
  let bits := x.toBits.toNat
  let exponentBits : Nat := bits / Nat.pow 2 52 % Nat.pow 2 11
  let fraction : Nat := bits % Nat.pow 2 52
  let m := if exponentBits = 0 then fraction else Nat.pow 2 52 + fraction
  let q : Int := if exponentBits = 0 then -1074 else (exponentBits : Int) - 1075
  match q with
  | .ofNat e => (m * Nat.pow 2 e, 1)
  | .negSucc e => (m, Nat.pow 2 (e + 1))

/-- The whole number nearest to a fraction, the even one of two. -/
def roundedDiv (num den : Nat) : Nat :=
  let down := num / den
  let twice := 2 * (num % den)
  if twice < den || (twice == den && down % 2 == 0) then down else down + 1

/-- The digits of a number with a point before the last places. -/
def pointBefore (places : Nat) (alternate : Bool) (digits : Text) : Text :=
  let whole := digits.take (digits.length - places)
  let fraction := digits.drop (digits.length - places)
  if places = 0 && !alternate then whole else whole ++ "." ++ fraction

/-- A fraction with a number of places after the point. The point is written even without places
if the alternate form is asked for. -/
def fixedText (places : Nat) (alternate : Bool) (num den : Nat) : Text :=
  pointBefore places alternate
    (Text.ofNatBase 10 (places + 1) (roundedDiv (num * Nat.pow 10 places) den))

/-- A fraction rounded to one digit and a number of places: the digits, and the power of ten of
the first. -/
def scientificDigits (places num den : Nat) : Nat × Int :=
  if num = 0 then (0, 0)
  else
    let top := Decimal.magnitude num den
    let (n, d) := Decimal.scale num den ((places : Int) - top)
    let digits := roundedDiv n d
    if Nat.pow 10 (places + 1) ≤ digits then (digits / 10, top + 1) else (digits, top)

/-- The power of ten in a notation: its sign and at least two digits. -/
def exponentText (e : Int) : Text :=
  (if e < 0 then ("e-" : Text) else "e+") ++ Text.ofNatBase 10 2 e.natAbs

/-- A fraction as one digit, places after the point, and a power of ten. -/
def scientificText (places : Nat) (alternate : Bool) (num den : Nat) : Text :=
  let (digits, e) := scientificDigits places num den
  pointBefore places alternate (Text.ofNatBase 10 (places + 1) digits) ++ exponentText e

/-- A notation without the zeros at the end of its fraction. -/
def dropFractionZeros (t : Text) : Text :=
  if t.has '.' then
    let cut : Text := (t.reverse.dropWhile fun c => c.val == 0x30).reverse
    if cut.getLast? == some ⟨0x2E⟩ then cut.dropLast else cut
  else t

/-- A fraction with a number of digits that count, positional where the number is neither large
nor small for them. -/
def generalText (precision : Nat) (alternate : Bool) (num den : Nat) : Text :=
  let p := max 1 precision
  let (digits, e) := scientificDigits (p - 1) num den
  let tidy (t : Text) : Text := if alternate then t else dropFractionZeros t
  if -4 ≤ e ∧ e < p then tidy (fixedText ((p : Int) - 1 - e).toNat alternate num den)
  else
    tidy (pointBefore (p - 1) alternate (Text.ofNatBase 10 p digits)) ++ exponentText e

end LintMend
