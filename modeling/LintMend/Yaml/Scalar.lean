/-
LintMend.Yaml.Scalar — what plain scalars mean.

A plain scalar that looks like a number, a switch, a day, a point in time or nothing is one; any
other is text. Numbers may hold low lines and may be written with base 60, 16, 8 or 2; a number
with a point needs a sign in its exponent.

  `Yaml.Kind`  — the kinds of values, by their tags
  `kindOf`     — the kind of a plain scalar
-/
import LintMend.Json.Reader
import LintMend.Text.Case
import LintMend.Yaml.Cursor

namespace LintMend.Yaml

/-- The kind of a node. -/
inductive Kind where
  | null
  | bool
  | int
  | float
  | text
  | binary
  | time
  | list
  | map
  | set
  | orderedMap
  | pairs
  /-- The key of a mapping that is to be merged into another. -/
  | merge
  /-- The key of a mapping's own value. -/
  | value
  /-- A kind that is not known, by its tag. -/
  | other (tag : Text)
  deriving DecidableEq, Repr

/-- The start of the tags of the standard kinds. -/
def standardTags : Text := "tag:yaml.org,2002:"

/-- The standard kinds by name. -/
def kindNames : List (Text × Kind) :=
  [("null", .null), ("bool", .bool), ("int", .int), ("float", .float), ("str", .text),
    ("binary", .binary), ("timestamp", .time), ("seq", .list), ("map", .map), ("set", .set),
    ("omap", .orderedMap), ("pairs", .pairs), ("merge", .merge), ("value", .value)]

/-- The kind that a tag names. -/
def Kind.ofTag (t : Text) : Kind :=
  match Text.dropStart? standardTags t with
  | some name => (kindNames.lookup name).getD (.other t)
  | none => .other t

/-- The words for switches, in one of three spellings. -/
def boolWords : List (Text × Bool) :=
  [("yes", true), ("no", false), ("true", true), ("false", false), ("on", true), ("off", false)]

/-- The first letter large, the others as they are. -/
def capitalized : Text → Text
  | [] => []
  | c :: rest => c.upper ++ rest

/-- The spellings in which a word counts: small, with a capital, or in capitals. -/
def spellings (t : Text) : List Text :=
  [t, capitalized t, t.toUpper]

/-- Whether a text is one of some words in one of their spellings. -/
def isWordAmong (words : List Text) (t : Text) : Bool :=
  words.any fun w => (spellings w).contains t

/-- A text without the sign at its start. -/
def dropSign (t : Text) : Text :=
  match t with
  | c :: rest => if c == '-' || c == '+' then rest else t
  | [] => []

/-- A decimal digit or a low line. -/
def isDigitOrLine (c : CodePoint) : Bool :=
  Json.isPlainDigit c || c == '_'

/-- Two digits of base sixty; the first, up to five, may be missing. -/
def isSixtieth : Text → Bool
  | [a] => Json.isPlainDigit a
  | [a, b] => 0x30 ≤ a.val && a.val ≤ 0x35 && Json.isPlainDigit b
  | _ => false

/-- A whole number that does not start with zero. -/
def isCount : Text → Bool
  | c :: rest => 0x31 ≤ c.val && c.val ≤ 0x39 && rest.all isDigitOrLine
  | [] => false

/-- Whether a text writes a whole number. -/
def looksInt (t : Text) : Bool :=
  let u := dropSign t
  match u with
  | ⟨0x30⟩ :: ⟨0x62⟩ :: digits =>
    !digits.isEmpty && digits.all fun c => c == '0' || c == '1' || c == '_'
  | ⟨0x30⟩ :: ⟨0x78⟩ :: digits =>
    !digits.isEmpty && digits.all fun c => (Json.hexValue? c).isSome || c == '_'
  | ⟨0x30⟩ :: digits =>
    digits.all fun c => (0x30 ≤ c.val && c.val ≤ 0x37) || c == '_'
  | _ =>
    match Text.splitAt ':' u with
    | first :: rest => isCount first && rest.all isSixtieth
    | [] => false

/-- An exponent with its sign, or none. -/
def looksExponent : Text → Bool
  | [] => true
  | e :: sign :: digits =>
    (e == 'e' || e == 'E') && (sign == '-' || sign == '+') && !digits.isEmpty &&
      digits.all Json.isPlainDigit
  | _ => false

/-- A whole number with a digit at its start. -/
def startsDigit : Text → Bool
  | c :: rest => Json.isPlainDigit c && rest.all isDigitOrLine
  | [] => false

/-- Whether a text writes a number with a point. -/
def looksFloat (t : Text) : Bool :=
  let u := dropSign t
  match Text.cut? '.' u with
  | none => false
  | some (whole, rest) =>
    let exponent := rest.dropWhile isDigitOrLine
    let fraction := rest.take (rest.length - exponent.length)
    if whole.isEmpty then
      (u == t && startsDigit fraction && looksExponent exponent) ||
        isWordAmong ["inf"] rest ||
        (u == t && (["nan", "NaN", "NAN"] : List Text).contains rest)
    else
      match Text.splitAt ':' whole with
      | [_] => startsDigit whole && looksExponent exponent
      | first :: more => startsDigit first && more.all isSixtieth && exponent.isEmpty
      | [] => false

/-- The parts of a day or a point in time as they are written. -/
structure TimeText where
  year : Text
  month : Text
  day : Text
  /-- Hour, minute, second. -/
  clock : Option (Text × Text × Text) := none
  /-- The sign, hours and minutes by which the clock is ahead, if they are given. -/
  zone : Option (CodePoint × Text × Text) := none

/-- Some decimal digits at the start of a text, and what follows them. -/
def takeDigits (least most : Nat) (t : Text) : Option (Text × Text) :=
  let digits := (t.takeWhile Json.isPlainDigit).take most
  if digits.length < least then none else some (digits, t.drop digits.length)

/-- What follows a code point at the start of a text. -/
def after? (c : CodePoint) : Text → Option Text
  | d :: rest => if d = c then some rest else none
  | [] => none

/-- The zone at the end of a point in time. -/
def zoneText? (t : Text) : Option (Option (CodePoint × Text × Text)) :=
  match t.dropWhile isBlank with
  | [] => if t.isEmpty then some none else none
  | c :: rest =>
    if c = 'Z' then if rest.isEmpty then some none else none
    else if c == '-' || c == '+' then do
      let (hours, rest) ← takeDigits 1 2 rest
      if rest.isEmpty then some (some (c, hours, []))
      else
        let (minutes, rest) ← takeDigits 2 2 (← after? ':' rest)
        if rest.isEmpty then some (some (c, hours, minutes)) else none
    else none

/-- The clock of a point in time, with the zone after it. -/
def clockText? (t : Text) :
    Option ((Text × Text × Text) × Option (CodePoint × Text × Text)) := do
  let rest := if t.head? == some 'T' || t.head? == some 't' then t.drop 1
    else t.dropWhile isBlank
  if rest.length = t.length then none
  let (hour, rest) ← takeDigits 1 2 rest
  let (minute, rest) ← takeDigits 2 2 (← after? ':' rest)
  let (second, rest) ← takeDigits 2 2 (← after? ':' rest)
  let rest := match after? '.' rest with
    | some fraction => fraction.dropWhile Json.isPlainDigit
    | none => rest
  return ((hour, minute, second), ← zoneText? rest)

/-- Read a day or a point in time. -/
def timeText? (t : Text) : Option TimeText := do
  let (year, rest) ← takeDigits 4 4 t
  let (month, rest) ← takeDigits 1 2 (← after? '-' rest)
  let (day, rest) ← takeDigits 1 2 (← after? '-' rest)
  if rest.isEmpty then some { year, month, day }
  else
    let (clock, zone) ← clockText? rest
    some { year, month, day, clock := some clock, zone }

/-- Whether a plain scalar writes a day, with two digits each for month and day, or a point in
time. -/
def looksTime (t : Text) : Bool :=
  match timeText? t with
  | some time => time.clock.isSome || (time.month.length == 2 && time.day.length == 2)
  | none => false

/-- The kind of a plain scalar. -/
def kindOf (t : Text) : Kind :=
  if t.isEmpty || t == "~" || isWordAmong ["null"] t then .null
  else if isWordAmong (boolWords.map (·.1)) t then .bool
  else if looksFloat t then .float
  else if looksInt t then .int
  else if t = "<<" then .merge
  else if looksTime t then .time
  else if t = "=" then .value
  else .text

end LintMend.Yaml
