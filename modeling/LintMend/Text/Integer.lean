/-
LintMend.Text.Integer — whole numbers as people type them.

A number is a run of decimal digits of any script, single low lines between them being
overlooked, with a sign before it and padding around it. Very long numbers are not read.

  `Text.int?` — the number that a text writes
-/
import LintMend.Json.Reader
import LintMend.Validation.Coerce

namespace LintMend.Text

/-- Digits with single low lines between them: the digits alone. -/
def joinedDigits? : Text → Option Text
  | [] => none
  | [c] => if c.isDigit then some [c] else none
  | c :: d :: rest =>
    if c.isDigit then
      if d = '_' then (joinedDigits? rest).map (c :: ·) else (joinedDigits? (d :: rest)).map (c :: ·)
    else none

/-- The whole number that a text writes. -/
def int? (t : Text) : Option Int :=
  let trimmed := Validation.trimPadding t
  let (negative, body) : Bool × Text :=
    match trimmed with
    | sign :: rest =>
      if sign = '-' then (true, rest) else if sign = '+' then (false, rest) else (false, trimmed)
    | [] => (false, [])
  match joinedDigits? body with
  | none => none
  | some digits =>
    if digits.length > Json.digitLimit then none
    else some (if negative then -(digitsValue digits : Int) else digitsValue digits)

end LintMend.Text
