/-
LintMend.Validation.Coerce — reading data as values of a type, leniently.

Text is only taken from text. A switch is also taken from 0, 1 and the usual words, a whole
number from whole floats and from its notation, a number from whole numbers and from notation.

  `readText`, `readBool`, `readInt`, `readFloat`, `readPath`, `readTexts`, `readChoice`
  `atLeast`, `atMost`, `above` — bounds; what is not a number lies within none
-/
import LintMend.FilePath
import LintMend.Json.Reader
import LintMend.Text.Case
import LintMend.Text.Space
import LintMend.Utf8
import LintMend.Validation.Datum
import LintMend.Validation.Problem

namespace LintMend.Validation

/-- A value, or why there is none. -/
abbrev Reading (α : Type) := Except Complaint α

/-- Text, from text or from bytes that encode it. -/
def readText : Datum → Reading Text
  | .text t => .ok t
  | .bytes bs =>
    match Utf8.decode bs with
    | .ok t => .ok t
    | .error _ => .error .brokenText
  | _ => .error .noText

/-- Text with at least one code point, all of them characters. -/
def readNonEmptyText (d : Datum) : Reading Text :=
  match readText d with
  | .error e => .error e
  | .ok t =>
    if !Utf8.isEncodable t then .error .brokenText
    else if t.isEmpty then .error (.tooShort 1)
    else .ok t

/-- The words for a switch that is off and for one that is on. -/
def offWords : List Text := ["0", "off", "f", "false", "n", "no"]

/-- The words for a switch that is on. -/
def onWords : List Text := ["1", "on", "t", "true", "y", "yes"]

/-- A switch from its word, in letters of either case. -/
def boolOfWord (t : Text) : Reading Bool :=
  if !Utf8.isEncodable t then .error .brokenText
  else if offWords.contains t.toLowerLatin then .ok false
  else if onWords.contains t.toLowerLatin then .ok true
  else .error .unreadableBool

/-- The bound, as a power of two, of the whole numbers that count as switches. -/
def switchBound : Int := Nat.pow 2 63

/-- A switch from a whole number. -/
def boolOfInt (n : Int) : Reading Bool :=
  if n = 0 then .ok false else if n = 1 then .ok true else .error .unreadableBool

/-- A switch. -/
def readBool : Datum → Reading Bool
  | .bool b => .ok b
  | .text t => boolOfWord t
  | .bytes bs =>
    match Utf8.decode bs with
    | .ok t => boolOfWord t
    | .error _ => .error .unreadableBool
  | .int n =>
    if -switchBound ≤ n ∧ n < switchBound then boolOfInt n else .error .noBool
  | .float x =>
    match intOfFloat? x with
    | some n => if -switchBound < n ∧ n < switchBound then boolOfInt n else .error .noBool
    | none => .error .noBool
  | _ => .error .noBool

/-- Whitespace around the notation of a number; the separators U+001C to U+001F are none. -/
def isPadding (c : CodePoint) : Bool :=
  c.isSpace && !(0x1C ≤ c.val && c.val ≤ 0x1F)

/-- The notation of a number without the whitespace around it. -/
def trimPadding (t : Text) : Text :=
  Text.trimEnd isPadding (Text.trimStart isPadding t)

/-- The text without single low lines within it; `none` if one stands at an end or beside
another, or if there is none at all. -/
def dropUnderscores? (t : Text) : Option Text :=
  if t.has '_' && t.head? != some '_' && t.getLast? != some '_' && !Text.contains "__" t then
    some (t.filter (· != '_'))
  else none

/-- The text before a point that only zeros follow. -/
def dropZeroFraction (t : Text) : Text :=
  match Text.cut? '.' t with
  | some (whole, zeros) => if zeros.all (· == '0') then whole else t
  | none => t

/-- The whole number that a text writes in decimal digits, perhaps after a minus sign. -/
def plainInt? (t : Text) : Option Int :=
  match t with
  | sign :: digits@(_ :: _) =>
    if sign = '-' then
      if digits.all Json.isPlainDigit then some (-(Text.digitsValue digits : Int)) else none
    else if t.all Json.isPlainDigit then some (Text.digitsValue t) else none
  | [d] => if Json.isPlainDigit d then some (Text.digitsValue [d]) else none
  | [] => none

/-- A whole number from its notation: blanks around it, a plus sign, a fraction of zeros and
low lines between digits are overlooked. -/
def intOfText (t : Text) : Reading Int :=
  let trimmed := trimPadding t
  let unsigned : Option Text :=
    match trimmed with
    | sign :: rest =>
      if sign = '+' then (if rest.head? == some '-' then none else some rest) else some trimmed
    | [] => some []
  match unsigned with
  | none => .error .unreadableInt
  | some u =>
    let whole := dropZeroFraction u
    let digits := (dropUnderscores? whole).getD whole
    match plainInt? digits with
    | some n => if digits.length > Json.digitLimit then .error .hugeInt else .ok n
    | none => .error .unreadableInt

/-- A whole number. -/
def readInt : Datum → Reading Int
  | .int n => .ok n
  | .bool b => .ok (if b then 1 else 0)
  | .text t => if Utf8.isEncodable t then intOfText t else .error .brokenText
  | .bytes bs =>
    match Utf8.decode bs with
    | .ok t => intOfText t
    | .error _ => .error .unreadableInt
  | .float x =>
    if x.isNaN || x.isInf then .error .infiniteInt
    else
      match intOfFloat? x with
      | some n => if -switchBound < n ∧ n < switchBound then .ok n else .error .hugeInt
      | none => .error .fractionalInt
  | _ => .error .noInt

/-- The number that a text writes: digits with a point and an exponent, or a word for infinity or
for no number, after a sign. -/
def plainFloat? (t : Text) : Option Float :=
  let (negative, body) : Bool × Text :=
    match t with
    | sign :: rest =>
      if sign = '-' then (true, rest) else if sign = '+' then (false, rest) else (false, t)
    | [] => (false, [])
  let word := body.toLowerLatin
  let signed (x : Float) : Float := if negative then -x else x
  if word = "inf" || word = "infinity" then some (signed infinity)
  else if word = "nan" then some (signed notANumber)
  else
    let whole := body.takeWhile Json.isPlainDigit
    let afterWhole := body.drop whole.length
    let fraction := Json.fractionPart afterWhole
    let afterFraction :=
      if afterWhole.head? == some '.' then afterWhole.drop (fraction.length + 1) else afterWhole
    let (exponentLength, exponent) := Json.exponentPart afterFraction
    if whole.isEmpty && fraction.isEmpty then none
    else if afterFraction.length ≠ exponentLength then none
    else
      some (floatOfDecimal negative (Text.digitsValue (whole ++ fraction))
        (exponent - fraction.length))

/-- A number from its notation: blanks around it and low lines between digits are overlooked. -/
def floatOfText (t : Text) : Reading Float :=
  let trimmed := trimPadding t
  match plainFloat? trimmed with
  | some x => .ok x
  | none =>
    match (dropUnderscores? trimmed).bind plainFloat? with
    | some x => .ok x
    | none => .error .unreadableNumber

/-- A number. -/
def readFloat : Datum → Reading Float
  | .float x => .ok x
  | .int n =>
    match floatOfInt? n with
    | some x => .ok x
    | none => .error .noNumber
  | .bool b => .ok (if b then 1.0 else 0.0)
  | .text t => if Utf8.isEncodable t then floatOfText t else .error .brokenText
  | .bytes bs =>
    match Utf8.decode bs with
    | .ok t => floatOfText t
    | .error _ => .error .unreadableNumber
  | _ => .error .noNumber

/-- A path, from text only. -/
def readPath : Datum → Reading FilePath
  | .text t => .ok (FilePath.ofText t)
  | _ => .error .noPath

/-- One of a few words, exactly. -/
def readChoice (choices : List Text) : Datum → Reading Text
  | .text t => if choices.contains t then .ok t else .error (.notAmong choices)
  | _ => .error (.notAmong choices)

/-- The items of a list as texts, or the problems of all those that are none. -/
def readItems (n : Nat) : List Datum → Except (List Problem) (List Text)
  | [] => .ok []
  | item :: rest =>
    match readText item, readItems (n + 1) rest with
    | .ok t, .ok ts => .ok (t :: ts)
    | .ok _, .error problems => .error problems
    | .error c, .ok _ => .error [⟨[.index n], c⟩]
    | .error c, .error problems => .error (⟨[.index n], c⟩ :: problems)

/-- A list of texts. -/
def readTexts : Datum → Except (List Problem) (List Text)
  | .list items => readItems 0 items
  | .tuple items => readItems 0 items
  | .set items => readItems 0 items
  | _ => .error [⟨[], .noList⟩]

/-- A number that is at most a bound. -/
def atMost (bound : Float) (shown : Text) (x : Float) : Reading Float :=
  if x ≤ bound then .ok x else .error (.notAtMost shown)

/-- A number that is at least a bound. -/
def atLeast (bound : Float) (shown : Text) (x : Float) : Reading Float :=
  if bound ≤ x then .ok x else .error (.notAtLeast shown)

/-- A number above a bound. -/
def above (bound : Float) (shown : Text) (x : Float) : Reading Float :=
  if bound < x then .ok x else .error (.notAbove shown)

/-- A whole number that is at most a bound. -/
def intAtMost (bound : Int) (n : Int) : Reading Int :=
  if n ≤ bound then .ok n else .error (.notAtMost (Text.ofInt bound))

/-- A whole number that is at least a bound. -/
def intAtLeast (bound : Int) (n : Int) : Reading Int :=
  if bound ≤ n then .ok n else .error (.notAtLeast (Text.ofInt bound))

end LintMend.Validation
