/-
LintMend.Decimal.Shortest — the shortest decimal that reads back as a given binary number.

A finite positive `Float` is `m · 2^q`. The reals that round to it form an interval around it,
whose ends belong to it iff `m` is even. For one digit, two digits, … seventeen digits the two
decimals next to the value are tried; the first number of digits with a hit wins, and of two
hits the one nearer to the value.

  `Decimal.shortest` — the decimal
  `Float.text`       — its notation: positional from 1e-4 up to, not including, 1e16
-/
import LintMend.Text.Basic

namespace LintMend

/-- The number `digits · 10^exponent`. -/
structure Decimal where
  digits : Nat
  exponent : Int
  deriving DecidableEq, Repr

namespace Decimal

/-- A fraction of natural numbers times a power of ten, again as a fraction. -/
def scale (num den : Nat) (exponent : Int) : Nat × Nat :=
  match exponent with
  | .ofNat e => (num * Nat.pow 10 e, den)
  | .negSucc e => (num, den * Nat.pow 10 (e + 1))

/-- The least `j`, from a given one on, with `num · 10^j ≥ den`. -/
def leadingZeros (num den : Nat) : (fuel j : Nat) → Nat
  | 0, j => j
  | fuel + 1, j => if den ≤ num * Nat.pow 10 j then j else leadingZeros num den fuel (j + 1)

/-- The power of ten of the leading digit of a positive fraction. -/
def magnitude (num den : Nat) : Int :=
  if den ≤ num then ((Nat.toDigits 10 (num / den)).length : Int) - 1
  else -(leadingZeros num den 400 1 : Int)

/-- The interval of the numbers that round to `m · 2^q`, over a common denominator: value, lower
end, upper end, denominator. The gap below a power of two is half the gap above it. -/
def rounding (m : Nat) (q : Int) (narrowBelow : Bool) : Nat × Nat × Nat × Nat :=
  let unit := if narrowBelow then 1 else 2
  let (value, low, high) := (4 * m, 4 * m - unit, 4 * m + 2)
  match q with
  | .ofNat e => (value * Nat.pow 2 e, low * Nat.pow 2 e, high * Nat.pow 2 e, 4)
  | .negSucc e => (value, low, high, 4 * Nat.pow 2 (e + 1))

/-- The decimal with a given number of digits that lies in the interval, the nearer of two. -/
def withDigits? (value low high den : Nat) (closed : Bool) (top : Int) (count : Nat) :
    Option Decimal :=
  let exponent := top - count + 1
  let (num, unit) := scale value den (-exponent)
  let down := num / unit
  let inside (d : Nat) : Bool :=
    let (l, lu) := scale low den (-exponent)
    let (h, hu) := scale high den (-exponent)
    if closed then l ≤ d * lu && d * hu ≤ h else l < d * lu && d * hu < h
  let downHits := down > 0 && inside down
  let upHits := inside (down + 1)
  if downHits && upHits then
    some ⟨if 2 * (num - down * unit) ≤ unit then down else down + 1, exponent⟩
  else if downHits then some ⟨down, exponent⟩
  else if upHits then some ⟨down + 1, exponent⟩
  else none

/-- The shortest decimal that rounds to `m · 2^q`. -/
def shortest (m : Nat) (q : Int) (narrowBelow : Bool) : Decimal :=
  let (value, low, high, den) := rounding m q narrowBelow
  let top := magnitude value den
  let hits := (List.range 17).filterMap fun n =>
    withDigits? value low high den (m % 2 == 0) top (n + 1)
  hits.headD ⟨m, 0⟩

end Decimal

/-- A decimal in positional or exponent notation. -/
def Decimal.text (d : Decimal) : Text :=
  let all := Nat.toDigits 10 d.digits
  let digits : Text := (all.reverse.dropWhile (· == '0')).reverse.map CodePoint.ofChar
  let point : Int := all.length + d.exponent
  let zeros (n : Nat) : Text := List.replicate n ('0' : CodePoint)
  if -4 < point ∧ point ≤ 16 then
    if point ≤ 0 then "0." ++ zeros (-point).toNat ++ digits
    else
      let whole : Text := digits.take point.toNat
      let fraction : Text := digits.drop point.toNat
      whole ++ zeros (point.toNat - whole.length) ++ "." ++
        (if fraction.isEmpty then Text.ofNat 0 else fraction)
  else
    let e := point - 1
    let mantissa : Text := match digits with
      | first :: rest@(_ :: _) => first :: "." ++ rest
      | short => short
    let sign : Text := if e < 0 then "-" else "+"
    mantissa ++ "e" ++ sign ++ Text.ofNatBase 10 2 e.natAbs

/-- The notation of a binary number with the fewest digits that read back as it. -/
def floatText (x : Float) : Text :=
  let bits := x.toBits.toNat
  let sign : Text := if bits / Nat.pow 2 63 = 1 then "-" else []
  let exponentBits : Nat := bits / Nat.pow 2 52 % Nat.pow 2 11
  let fraction : Nat := bits % Nat.pow 2 52
  if exponentBits = 2047 then
    if fraction = 0 then sign ++ "inf" else "nan"
  else if exponentBits = 0 ∧ fraction = 0 then sign ++ "0.0"
  else if exponentBits = 0 then sign ++ (Decimal.shortest fraction (-1074) false).text
  else
    let narrow := fraction == 0 && exponentBits > 1
    sign ++ (Decimal.shortest (Nat.pow 2 52 + fraction) ((exponentBits : Int) - 1075) narrow).text

end LintMend
