/-
LintMend.Json.Reader — reading JSON text.

The reader takes standard JSON and, beyond it, the three words `NaN`, `Infinity` and
`-Infinity`. A surrogate pair of escapes is one code point, a surrogate escape alone stays a
surrogate. Of two fields with one name the last value counts.

A refusal names its cause and the position, and says it with line and column.

  `Json.read`         — a whole text
  `ReadError.message` — the text of a refusal
-/
import LintMend.Json.Basic
import LintMend.Text.Digit

namespace LintMend

namespace Json

/-- Why a text is no JSON. -/
inductive Fault where
  | expectedValue
  | expectedName
  | expectedColon
  | expectedComma
  | unterminatedString
  | controlCharacter
  | badEscape
  | badUnicodeEscape
  | extraData
  | byteOrderMark
  deriving DecidableEq, Repr

/-- Why reading stopped: a fault at a position of the text, or an integer with more digits than
are read. -/
inductive ReadError where
  | fault (kind : Fault) (position : Nat)
  | tooManyDigits (count : Nat)
  deriving DecidableEq, Repr

/-- A place in the text: how many code points precede it, and those from it on. -/
structure Cursor where
  position : Nat
  rest : Text

namespace Cursor

/-- The place some code points further on. -/
def advance (c : Cursor) (count : Nat) : Cursor :=
  ⟨c.position + count, c.rest.drop count⟩

/-- The place after blanks. -/
def skipBlanks (c : Cursor) : Cursor :=
  let blank (d : CodePoint) : Bool := d.val == 0x20 || (0x09 ≤ d.val && d.val ≤ 0x0A) || d.val == 0x0D
  c.advance (c.rest.takeWhile blank).length

/-- The code point at the place. -/
def head? (c : Cursor) : Option CodePoint :=
  c.rest.head?

end Cursor

/-- The value of a hexadecimal digit. -/
def hexValue? (c : CodePoint) : Option Nat :=
  if 0x30 ≤ c.val ∧ c.val ≤ 0x39 then some (c.val - 0x30)
  else if 0x41 ≤ c.val ∧ c.val ≤ 0x46 then some (c.val - 0x37)
  else if 0x61 ≤ c.val ∧ c.val ≤ 0x66 then some (c.val - 0x57)
  else none

/-- The number of four hexadecimal digits. -/
def hex4? (t : Text) : Option Nat :=
  if t.length = 4 then t.foldlM (fun n c => (hexValue? c).map (16 * n + ·)) 0 else none

/-- The code point of a one-letter escape. -/
def simpleEscape? (c : CodePoint) : Option CodePoint :=
  match c.char? with
  | some '"' => some '"'
  | some '\\' => some '\\'
  | some '/' => some '/'
  | some 'b' => some ⟨0x08⟩
  | some 'f' => some ⟨0x0C⟩
  | some 'n' => some ⟨0x0A⟩
  | some 'r' => some ⟨0x0D⟩
  | some 't' => some ⟨0x09⟩
  | _ => none

/-- The number of the digits after a backslash and `u`, which must not end the text. -/
def readHex (c : Cursor) : Except ReadError Nat :=
  if c.rest.length ≤ 4 then .error (.fault .badUnicodeEscape (c.position - 1))
  else
    match hex4? (c.rest.take 4) with
    | some n => .ok n
    | none => .error (.fault .badUnicodeEscape (c.position - 1))

/-- The code point of an escape with hexadecimal digits, from the first digit on: a high
surrogate joins with a low one escaped right after it. -/
def readUnicodeEscape (c : Cursor) : Except ReadError (CodePoint × Cursor) := do
  let high ← readHex c
  let after := c.advance 4
  if 0xD800 ≤ high ∧ high ≤ 0xDBFF ∧ after.rest.length > 6 ∧
      Text.startsWith "\\u" after.rest then
    let low ← readHex (after.advance 2)
    if 0xDC00 ≤ low ∧ low ≤ 0xDFFF then
      return (⟨0x10000 + (high - 0xD800) * 0x400 + (low - 0xDC00)⟩, after.advance 6)
  return (⟨high⟩, after)

/-- The rest of a string after its opening quote, given the place of that quote. -/
def readString (opening : Nat) : (fuel : Nat) → Cursor → Text → Except ReadError (Text × Cursor)
  | 0, _, _ => .error (.fault .unterminatedString opening)
  | fuel + 1, c, done =>
    match c.rest with
    | [] => .error (.fault .unterminatedString opening)
    | d :: rest =>
      if d = '"' then .ok (done.reverse, c.advance 1)
      else if d.val ≤ 0x1F then .error (.fault .controlCharacter c.position)
      else if d = '\\' then
        match rest with
        | [] => .error (.fault .unterminatedString opening)
        | e :: _ =>
          if e = 'u' then
            match readUnicodeEscape (c.advance 2) with
            | .ok (x, after) => readString opening fuel after (x :: done)
            | .error err => .error err
          else
            match simpleEscape? e with
            | some x => readString opening fuel (c.advance 2) (x :: done)
            | none => .error (.fault .badEscape c.position)
      else readString opening fuel (c.advance 1) (d :: done)

/-- The largest number of digits of an integer that is read. -/
def digitLimit : Nat := 4300

/-- A digit of the basic Latin block. -/
def isPlainDigit (c : CodePoint) : Bool :=
  0x30 ≤ c.val && c.val ≤ 0x39

/-- The exponent part at the start of a text: its length and value. -/
def exponentPart (t : Text) : Nat × Int :=
  match t with
  | e :: rest =>
    if e = 'e' || e = 'E' then
      let (signLength, negative) := match rest with
        | s :: _ => if s = '-' then (1, true) else if s = '+' then (1, false) else (0, false)
        | [] => (0, false)
      let digits := (rest.drop signLength).takeWhile isPlainDigit
      if digits.isEmpty then (0, 0)
      else
        let size : Int := Text.digitsValue digits
        (1 + signLength + digits.length, if negative then -size else size)
    else (0, 0)
  | [] => (0, 0)

/-- The fraction part at the start of a text: its digits. -/
def fractionPart (t : Text) : Text :=
  match t with
  | point :: rest => if point = '.' then rest.takeWhile isPlainDigit else []
  | [] => []

/-- A number, at its first digit or minus sign. -/
def readNumber (c : Cursor) : Except ReadError (Json × Cursor) :=
  let negative := c.head? == some '-'
  let start := if negative then c.advance 1 else c
  let whole := match start.rest with
    | d :: _ => if d = '0' then start.rest.take 1 else start.rest.takeWhile isPlainDigit
    | [] => []
  if whole.isEmpty then .error (.fault .expectedValue c.position)
  else
    let afterWhole := start.advance whole.length
    let fraction := fractionPart afterWhole.rest
    let afterFraction :=
      if fraction.isEmpty then afterWhole else afterWhole.advance (fraction.length + 1)
    let (exponentLength, exponent) := exponentPart afterFraction.rest
    let stop := afterFraction.advance exponentLength
    if fraction.isEmpty && exponentLength == 0 then
      if whole.length > digitLimit then .error (.tooManyDigits whole.length)
      else
        let n : Int := Text.digitsValue whole
        .ok (int (if negative then -n else n), stop)
    else
      let digits := Text.digitsValue (whole ++ fraction)
      .ok (float (floatOfDecimal negative digits (exponent - fraction.length)), stop)

/-- The words that stand for a value. -/
def words : List (Text × Json) :=
  [("null", null), ("true", bool true), ("false", bool false), ("NaN", float notANumber),
    ("Infinity", float infinity), ("-Infinity", float (-infinity))]

mutual

/-- A value, at its first code point. -/
def readValue : (fuel : Nat) → Cursor → Except ReadError (Json × Cursor)
  | 0, c => .error (.fault .expectedValue c.position)
  | fuel + 1, c =>
    match c.rest with
    | [] => .error (.fault .expectedValue c.position)
    | d :: _ =>
      if d = '"' then
        match readString c.position (c.rest.length + 1) (c.advance 1) [] with
        | .ok (t, after) => .ok (string t, after)
        | .error e => .error e
      else if d = '[' then
        let inside := (c.advance 1).skipBlanks
        if inside.head? == some ']' then .ok (array [], inside.advance 1)
        else readItems fuel inside []
      else if d = '\x7b' then
        let inside := (c.advance 1).skipBlanks
        if inside.head? == some '\x7d' then .ok (object [], inside.advance 1)
        else readFields fuel inside []
      else
        match words.find? fun (word, _) => Text.startsWith word c.rest with
        | some (word, value) => .ok (value, c.advance word.length)
        | none => readNumber c

/-- The items of an array up to its closing bracket, after those already read. -/
def readItems : (fuel : Nat) → Cursor → List Json → Except ReadError (Json × Cursor)
  | 0, c, _ => .error (.fault .expectedValue c.position)
  | fuel + 1, c, done =>
    match readValue fuel c with
    | .error e => .error e
    | .ok (value, after) =>
      let next := after.skipBlanks
      if next.head? == some ']' then .ok (array (value :: done).reverse, next.advance 1)
      else if next.head? == some ',' then
        readItems fuel (next.advance 1).skipBlanks (value :: done)
      else .error (.fault .expectedComma next.position)

/-- The fields of an object up to its closing brace, after those already read. -/
def readFields : (fuel : Nat) → Cursor → List (Text × Json) → Except ReadError (Json × Cursor)
  | 0, c, _ => .error (.fault .expectedName c.position)
  | fuel + 1, c, done =>
    if c.head? != some '"' then .error (.fault .expectedName c.position)
    else
      match readString c.position (c.rest.length + 1) (c.advance 1) [] with
      | .error e => .error e
      | .ok (name, afterName) =>
        let colon := afterName.skipBlanks
        if colon.head? != some ':' then .error (.fault .expectedColon colon.position)
        else
          match readValue fuel (colon.advance 1).skipBlanks with
          | .error e => .error e
          | .ok (value, after) =>
            let next := after.skipBlanks
            if next.head? == some '\x7d' then
              .ok (ofFields ((name, value) :: done).reverse, next.advance 1)
            else if next.head? == some ',' then
              readFields fuel (next.advance 1).skipBlanks ((name, value) :: done)
            else .error (.fault .expectedComma next.position)

end

/-- Read a text that holds one value, with blanks around it. -/
def readWhole (t : Text) : Except ReadError Json :=
  match readValue (2 * t.length + 2) (Cursor.skipBlanks ⟨0, t⟩) with
  | .error e => .error e
  | .ok (value, after) =>
    let stop := after.skipBlanks
    if stop.rest.isEmpty then .ok value else .error (.fault .extraData stop.position)

/-- Read a text, which must not open with a byte order mark. -/
def read (t : Text) : Except ReadError Json :=
  if t.head? = some ⟨0xFEFF⟩ then .error (.fault .byteOrderMark 0) else readWhole t

/-- The cause of a refusal in words. -/
def Fault.message : Fault → Text
  | expectedValue => "Expecting value"
  | expectedName => "Expecting property name enclosed in double quotes"
  | expectedColon => "Expecting ':' delimiter"
  | expectedComma => "Expecting ',' delimiter"
  | unterminatedString => "Unterminated string starting at"
  | controlCharacter => "Invalid control character at"
  | badEscape => "Invalid \\escape"
  | badUnicodeEscape => "Invalid \\uXXXX escape"
  | extraData => "Extra data"
  | byteOrderMark => "Unexpected UTF-8 BOM (decode using utf-8-sig)"

/-- The refusal of an integer with too many digits. -/
def tooManyDigitsMessage (count : Nat) : Text :=
  "Exceeds the limit (4300 digits) for integer string conversion: value has " ++
    Text.ofNat count ++
    " digits; use sys.set_int_max_str_digits() to increase the limit"

/-- A refusal in words, with line, column and position in the text read. -/
def ReadError.message (document : Text) : ReadError → Text
  | fault kind position =>
    let before := document.take position
    let line := before.count ⟨0x0A⟩ + 1
    let column := (before.reverse.takeWhile (· != ⟨0x0A⟩)).length + 1
    kind.message ++ ": line " ++ Text.ofNat line ++ " column " ++ Text.ofNat column ++
      " (char " ++ Text.ofNat position ++ ")"
  | tooManyDigits count => tooManyDigitsMessage count

end Json

end LintMend
