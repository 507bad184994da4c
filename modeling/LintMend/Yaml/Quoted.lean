/-
LintMend.Yaml.Quoted — scalars in quotes.

In single quotes only the quote is special, which is written twice. In double quotes a backslash
starts an escape. The end of a line counts as a space; of several in a row, all but the first
stay.

  `Yaml.quoted` — a quoted scalar from its opening quote on
-/
import LintMend.Json.Reader
import LintMend.Yaml.Cursor

namespace LintMend.Yaml

/-- What is being read in a quoted scalar when a line or the text ends. -/
def readingQuoted : Text := "while scanning a quoted scalar"

/-- What is being read at an escape. -/
def readingEscape : Text := "while scanning a double-quoted scalar"

/-- Line ends in a quoted scalar, and the blanks around them. -/
def quotedBreaks (began : Spot) : (fuel : Nat) → Cursor → Text → Except Fault (Text × Cursor)
  | 0, c, done => .ok (done, c)
  | fuel + 1, c, done =>
    if atDocumentMark c.rest then
      .error (c.fault readingQuoted began "found unexpected document separator")
    else
      let c := c.skipWhile isBlank
      match c.takeBreak with
      | ([], _) => .ok (done, c)
      | (t, next) => quotedBreaks began fuel next (done ++ t)

/-- Blanks or a line end in a quoted scalar. -/
def quotedGap (began : Spot) (c : Cursor) : Except Fault (Text × Cursor) := do
  let (blanks, c) := c.takeWhile isBlank
  match c.takeBreak with
  | ([], _) =>
    if c.rest.isEmpty then throw (c.fault readingQuoted began "found unexpected end of stream")
    else return (blanks, c)
  | (first, next) =>
    let (breaks, stop) ← quotedBreaks began (next.rest.length + 1) next []
    let head : Text := if first != "\n" then first else if breaks.isEmpty then " " else []
    return (head ++ breaks, stop)

/-- The code point of a one-letter escape. -/
def escape? (c : CodePoint) : Option CodePoint :=
  match c.char? with
  | some '0' => some ⟨0x00⟩
  | some 'a' => some ⟨0x07⟩
  | some 'b' => some ⟨0x08⟩
  | some 't' | some '\t' => some ⟨0x09⟩
  | some 'n' => some ⟨0x0A⟩
  | some 'v' => some ⟨0x0B⟩
  | some 'f' => some ⟨0x0C⟩
  | some 'r' => some ⟨0x0D⟩
  | some 'e' => some ⟨0x1B⟩
  | some ' ' => some ' '
  | some '"' => some '"'
  | some '\\' => some '\\'
  | some '/' => some '/'
  | some 'N' => some ⟨0x85⟩
  | some '_' => some ⟨0xA0⟩
  | some 'L' => some ⟨0x2028⟩
  | some 'P' => some ⟨0x2029⟩
  | _ => none

/-- The number of digits after the letter of an escape by number. -/
def escapeDigits? (c : CodePoint) : Option Nat :=
  if c = 'x' then some 2 else if c = 'u' then some 4 else if c = 'U' then some 8 else none

/-- The number that hexadecimal digits write. -/
def hexNumber (began : Spot) (count : Nat) (c : Cursor) : Except Fault Nat :=
  let digits := (c.rest.take count).takeWhile fun d => (Json.hexValue? d).isSome
  if digits.length = count then
    .ok (digits.foldl (fun n d => 16 * n + (Json.hexValue? d).getD 0) 0)
  else
    .error (c.fault readingEscape began ("expected escape sequence of " ++ Text.ofNat count ++
      " hexadecimal numbers, but found " ++
      Text.quoted [(c.rest.drop digits.length).headD ⟨0⟩]))

/-- An escape writes a number that no code point has. -/
def noCodePoint (n : Nat) : Fault :=
  .value (if n < Nat.pow 2 31 then .badValue "chr() arg not in range(0x110000)"
    else .slip .overflow "Python int too large to convert to C int")

/-- An escape after its backslash. -/
def escape (began : Spot) (c : Cursor) : Except Fault (Text × Cursor) :=
  let d := c.rest.headD ⟨0⟩
  match escape? d, escapeDigits? d with
  | some e, _ => .ok ([e], c.advance)
  | none, some count => do
    let value ← hexNumber began count c.advance
    if value < 0x110000 then return ([⟨value⟩], c.advanceBy (count + 1))
    else throw (noCodePoint value)
  | none, none =>
    if isBreak d then
      let next := c.takeBreak.2
      quotedBreaks began (next.rest.length + 1) next []
    else .error (c.fault readingEscape began ("found unknown escape character " ++ c.shownNext))

/-- The rest of a quoted scalar after what is read of it. -/
def quotedFrom (double : Bool) (began : Spot) :
    (fuel : Nat) → Cursor → Text → Except Fault (Text × Cursor)
  | 0, c, done => .ok (done, c)
  | fuel + 1, c, done =>
    match c.rest with
    | [] => .error (c.fault readingQuoted began "found unexpected end of stream")
    | d :: rest =>
      if isBlank d || isBreak d then
        match quotedGap began c with
        | .error fault => .error fault
        | .ok (t, next) => quotedFrom double began fuel next (done ++ t)
      else if double then
        if d = '"' then .ok (done, c.advance)
        else if d = '\\' then
          match escape began c.advance with
          | .error fault => .error fault
          | .ok (t, next) => quotedFrom double began fuel next (done ++ t)
        else quotedFrom double began fuel c.advance (done ++ [d])
      else if d = '\'' then
        if rest.head? == some '\'' then quotedFrom double began fuel (c.advanceBy 2) (done ++ [d])
        else .ok (done, c.advance)
      else quotedFrom double began fuel c.advance (done ++ [d])

/-- A quoted scalar: its text, and the place after its closing quote. -/
def quoted (double : Bool) (c : Cursor) : Except Fault (Text × Cursor) :=
  quotedFrom double c.spot (c.rest.length + 1) c.advance []

end LintMend.Yaml
