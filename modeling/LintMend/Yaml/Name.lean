/-
LintMend.Yaml.Name — anchors, tags and directives.

  `Yaml.name`      — the name of an anchor or alias
  `Yaml.tag`       — a tag: its handle, if it has one, and the rest
  `Yaml.directive` — a directive
-/
import LintMend.Json.Reader
import LintMend.Utf8
import LintMend.Yaml.Cursor

namespace LintMend.Yaml

/-- A code point that names of anchors and handles may hold. -/
def isNameChar (c : CodePoint) : Bool :=
  (0x30 ≤ c.val && c.val ≤ 0x39) || (0x41 ≤ c.val && c.val ≤ 0x5A) ||
    (0x61 ≤ c.val && c.val ≤ 0x7A) || c == '-' || c == '_'

/-- Whether a code point is among those of a string. -/
def isOneOf (s : String) (c : CodePoint) : Bool :=
  (Text.ofString s).has c

/-- What is expected of names. -/
def nameChars : Text := "alphabetic or numeric character"

/-- The name of an anchor or alias, from its mark on. -/
def name (what : Text) (c : Cursor) : Except Fault (Text × Cursor) :=
  let doing := "while scanning an " ++ what
  let began := c.spot
  let (t, c) := c.advance.takeWhile isNameChar
  if !t.isEmpty && (atGap c.rest || (c.rest.head?.map (isOneOf "?:,]\x7d%@`")).getD false) then
    .ok (t, c)
  else .error (c.unlike doing began nameChars)

/-- A code point that a tag may hold as it is. -/
def isTagChar (c : CodePoint) : Bool :=
  isNameChar c || isOneOf ";/?:@&=+$,_.!~*'()[]" c

/-- The bytes that are written by percent signs and two digits each. -/
def escapedBytes (doing : Text) (began : Spot) :
    (fuel : Nat) → Cursor → Except Fault (Bytes × Cursor)
  | 0, c => .ok ([], c)
  | fuel + 1, c =>
    if c.sees '%' then
      let inside := c.advance
      let digits := (inside.rest.take 2).takeWhile fun d => (Json.hexValue? d).isSome
      match digits.mapM Json.hexValue? with
      | some [a, b] =>
        match escapedBytes doing began fuel (c.advanceBy 3) with
        | .ok (bytes, next) => .ok (UInt8.ofNat (16 * a + b) :: bytes, next)
        | .error fault => .error fault
      | _ =>
        .error (inside.fault doing began
          ("expected URI escape sequence of 2 hexadecimal numbers, but found " ++
            Text.quoted [(inside.rest.drop digits.length).headD ⟨0⟩]))
    else .ok ([], c)

/-- The part of a tag after its handle, as far as it goes. -/
def tagSuffix (doing : Text) (began : Spot) :
    (fuel : Nat) → Cursor → Except Fault (Text × Cursor)
  | 0, c => .ok ([], c)
  | fuel + 1, c =>
    let (t, next) := c.takeWhile isTagChar
    if next.sees '%' then
      match escapedBytes doing began next.rest.length next with
      | .error fault => .error fault
      | .ok (bytes, after) =>
        match Utf8.decode bytes with
        | .error e => .error (next.fault doing began e.message)
        | .ok u =>
          match tagSuffix doing began fuel after with
          | .error fault => .error fault
          | .ok (more, stop) => .ok (t ++ u ++ more, stop)
    else .ok (t, next)

/-- The part of a tag after its handle, which must not be empty. -/
def tagRest (what : Text) (began : Spot) (c : Cursor) : Except Fault (Text × Cursor) :=
  match tagSuffix ("while scanning a " ++ what) began (c.rest.length + 1) c with
  | .error fault => .error fault
  | .ok (t, next) =>
    if next.index = c.index then .error (next.unlike ("while parsing a " ++ what) began "URI")
    else .ok (t, next)

/-- A handle: an exclamation mark alone before a space, or a name between two of them. -/
def handle (what : Text) (began : Spot) (c : Cursor) : Except Fault (Text × Cursor) :=
  let doing := "while scanning a " ++ what
  if !c.sees '!' then .error (c.unlike doing began "'!'")
  else
    let next := c.advance
    if next.sees ' ' then .ok ("!", next)
    else
      let (t, stop) := next.takeWhile isNameChar
      if stop.sees '!' then .ok ("!" ++ t ++ "!", stop.advance)
      else .error (stop.unlike doing began "'!'")

/-- Whether a second exclamation mark stands in a tag. -/
def hasHandle (c : Cursor) : Bool :=
  Text.has (c.rest.takeWhile fun d => !(isBreak d || d.val == 0x20)) '!'

/-- A tag from its exclamation mark on. -/
def tag (c : Cursor) : Except Fault ((Option Text × Text) × Cursor) := do
  let began := c.spot
  let inside := c.advance
  let (found, stop) ←
    if inside.sees '<' then do
      let (t, stop) ← tagRest "tag" began inside.advance
      if !stop.sees '>' then throw (stop.unlike "while parsing a tag" began "'>'")
      pure ((none, t), stop.advance)
    else if atGap inside.rest then pure ((none, ("!" : Text)), inside)
    else if hasHandle inside then do
      let (h, next) ← handle "tag" began c
      let (t, stop) ← tagRest "tag" began next
      pure ((some h, t), stop)
    else do
      let (t, stop) ← tagRest "tag" began inside
      pure ((some ("!" : Text), t), stop)
  if !atSpace stop.rest then throw (stop.unlike "while scanning a tag" began "' '")
  return (found, stop)

/-- A directive, as far as it concerns the reading of a document. -/
inductive Directive where
  | version (major : Nat)
  | handle (name start : Text)
  | unknown
  deriving DecidableEq, Repr

/-- What is being read in a directive. -/
def readingDirective : Text := "while scanning a directive"

/-- A number in a directive. -/
def directiveNumber (began : Spot) (c : Cursor) : Except Fault (Nat × Cursor) :=
  let (digits, next) := c.takeWhile Json.isPlainDigit
  if digits.isEmpty then .error (c.unlike readingDirective began "a digit")
  else .ok (Text.digitsValue digits, next)

/-- The version that a directive names. -/
def directiveVersion (began : Spot) (c : Cursor) : Except Fault (Directive × Cursor) := do
  let (major, c) ← directiveNumber began c.skipSpaces
  if !c.sees '.' then throw (c.unlike readingDirective began "a digit or '.'")
  let (_, c) ← directiveNumber began c.advance
  if !atSpace c.rest then throw (c.unlike readingDirective began "a digit or ' '")
  return (.version major, c)

/-- The handle that a directive defines. -/
def directiveHandle (began : Spot) (c : Cursor) : Except Fault (Directive × Cursor) := do
  let (h, c) ← handle "directive" began c.skipSpaces
  if !c.sees ' ' then throw (c.unlike readingDirective began "' '")
  let (t, c) ← tagRest "directive" began c.skipSpaces
  if !atSpace c.rest then throw (c.unlike readingDirective began "' '")
  return (.handle h t, c)

/-- A directive from its percent sign on, with the end of its line. -/
def directive (c : Cursor) : Except Fault (Directive × Cursor) := do
  let began := c.spot
  let (word, c) := c.advance.takeWhile isNameChar
  if word.isEmpty || !atSpace c.rest then throw (c.unlike readingDirective began nameChars)
  let (found, c) ←
    if word = "YAML" then directiveVersion began c
    else if word = "TAG" then directiveHandle began c
    else pure (Directive.unknown, c.skipLine)
  return (found, ← c.skipComment readingDirective began)

end LintMend.Yaml
