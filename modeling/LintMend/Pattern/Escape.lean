/-
LintMend.Pattern.Escape — what a backslash means in written patterns and replacements.

A backslash before a code point calls for a control character, for a code point by its number in
base sixteen or eight, for a class, a place, or a group. Before anything but a letter or a digit
it stands for nothing.

  `Call`, `readCall`       — a group or a character by its digits
  `Escape`, `readEscape`   — an escape in a pattern
  `readMemberEscape`       — an escape in a bracketed class
-/
import LintMend.Json.Reader
import LintMend.Pattern.Basic
import LintMend.Pattern.Token
import LintMend.Text.Quoted

namespace LintMend.Pattern

/-- The code points of the one-letter escapes. -/
def controlEscape? (c : CodePoint) : Option CodePoint :=
  match c.char? with
  | some 'a' => some ⟨0x07⟩
  | some 'b' => some ⟨0x08⟩
  | some 'f' => some ⟨0x0C⟩
  | some 'n' => some ⟨0x0A⟩
  | some 'r' => some ⟨0x0D⟩
  | some 't' => some ⟨0x09⟩
  | some 'v' => some ⟨0x0B⟩
  | some '\\' => some '\\'
  | _ => none

/-- The class of a class escape. -/
def classEscape? (c : CodePoint) : Option ClassItem :=
  match c.char? with
  | some 'd' => some .digit
  | some 'D' => some .notDigit
  | some 's' => some .space
  | some 'S' => some .notSpace
  | some 'w' => some .word
  | some 'W' => some .notWord
  | _ => none

/-- The place of a place escape. -/
def placeEscape? (latin : Bool) (c : CodePoint) : Option Pattern :=
  match c.char? with
  | some 'A' => some textStart
  | some 'Z' => some textEnd
  | some 'b' => some (if latin then latinWordEdge true else wordEdge true)
  | some 'B' => some (if latin then latinWordEdge false else wordEdge false)
  | _ => none

/-- A hexadecimal digit. -/
def isHexDigit (c : CodePoint) : Bool :=
  (Json.hexValue? c).isSome

/-- The number that hexadecimal digits denote. -/
def hexNumber (digits : Text) : Nat :=
  digits.foldl (fun n c => 16 * n + (Json.hexValue? c).getD 0) 0

/-- The number of hexadecimal digits after the letter of an escape, for those letters that want
some. -/
def hexLength? (c : CodePoint) : Option Nat :=
  if c = 'x' then some 2 else if c = 'u' then some 4 else if c = 'U' then some 8 else none

/-- The code point of an escape with a number of hexadecimal digits, after its letter. -/
def readHexEscape (start : Nat) (escape : Text) (count : Nat) (ts : Tokens) :
    Except Fault (CodePoint × Tokens) := do
  let (digits, rest) ← ts.takeWhile isHexDigit count
  let n := hexNumber digits
  if digits.length != count then throw (.here ("incomplete escape " ++ escape ++ digits) start)
  if n > 0x10FFFF then throw (.here ("bad escape " ++ escape ++ digits) start)
  return (⟨n⟩, rest)

/-- The code point of an escape that names it, after its letter. No names are known. -/
def readNamedEscape (start : Nat) (ts : Tokens) : Except Fault (CodePoint × Tokens) := do
  let (opened, inside) ← ts.skip '\x7b'
  if !opened then throw (.here "missing \x7b" ts.position)
  let (name, _) ← inside.readName "\x7d" "character name"
  throw (.here ("undefined character name " ++ name.quoted) start)

/-- Whether a name can name a group: a letter or low line, then word characters. -/
def isGroupName (name : Text) : Bool :=
  match name with
  | c :: rest => c.isWord && !c.isDigit && rest.all CodePoint.isWord
  | [] => false

/-- A fault of an octal number that is too large for a code point. -/
def octalFault (start : Nat) (escape : Text) : Fault :=
  .here ("octal escape value " ++ escape ++ " outside of range 0-0o377") start

/-- What a backslash and digits call for. -/
inductive Call where
  | char (c : CodePoint)
  | group (number : Nat)
  deriving DecidableEq, Repr

/-- What a backslash and a zero call for, after the zero: up to two more octal digits belong to
it. -/
def readZero (ts : Tokens) : Except Fault (CodePoint × Tokens) := do
  let (digits, rest) ← ts.takeWhile isOctalDigit 2
  return (⟨numberOf 8 digits⟩, rest)

/-- What a backslash and a digit other than zero call for, after that digit: three octal digits
are a character, one or two digits a group. -/
def readCall (start : Nat) (first : CodePoint) (ts : Tokens) : Except Fault (Call × Tokens) := do
  let (digits, rest) ← ts.takeWhile isLatinDigit 1
  let digits := first :: digits
  if digits.length = 2 ∧ digits.all isOctalDigit then
    let (third, after) ← rest.takeWhile isOctalDigit 1
    if !third.isEmpty then
      let digits := digits ++ third
      if numberOf 8 digits > 0xFF then throw (octalFault start ("\\" ++ digits))
      return (.char ⟨numberOf 8 digits⟩, after)
  return (.group (numberOf 10 digits), rest)

/-- The code point that a backslash before a code point stands for, if that is no digit. -/
def readCharEscape (start : Nat) (c : CodePoint) (ts : Tokens) :
    Except Fault (CodePoint × Tokens) :=
  match hexLength? c, controlEscape? c with
  | some count, _ => readHexEscape start ['\\', c] count ts
  | _, some d => .ok (d, ts)
  | _, _ =>
    if c = 'N' then readNamedEscape start ts
    else if isLatinLetter c then .error (.here ("bad escape \\" ++ [c]) start)
    else .ok (c, ts)

/-- An escape in a pattern. -/
inductive Escape where
  | char (c : CodePoint)
  | item (item : ClassItem)
  | place (p : Pattern)
  | group (number : Nat)
  deriving DecidableEq, Repr

/-- What a backslash before a code point means in a pattern, given the tokens after both. -/
def readEscape (latin : Bool) (start : Nat) (c : CodePoint) (ts : Tokens) :
    Except Fault (Escape × Tokens) := do
  match classEscape? c, placeEscape? latin c with
  | some item, _ => return (.item item, ts)
  | _, some p => return (.place p, ts)
  | _, _ =>
    if c = '0' then
      let (d, rest) ← readZero ts
      return (.char d, rest)
    else if isLatinDigit c then
      match ← readCall start c ts with
      | (.char d, rest) => return (.char d, rest)
      | (.group n, rest) => return (.group n, rest)
    else
      let (d, rest) ← readCharEscape start c ts
      return (.char d, rest)

/-- What a backslash before a code point means in a bracketed class: a part of the class, or a
code point that can begin or end a range. -/
def readMemberEscape (start : Nat) (c : CodePoint) (ts : Tokens) :
    Except Fault ((ClassItem ⊕ CodePoint) × Tokens) := do
  match classEscape? c with
  | some item => return (.inl item, ts)
  | none =>
    if isOctalDigit c then
      let (more, rest) ← ts.takeWhile isOctalDigit 2
      let digits := c :: more
      if numberOf 8 digits > 0xFF then throw (octalFault start ("\\" ++ digits))
      return (.inr ⟨numberOf 8 digits⟩, rest)
    else if isLatinDigit c then throw (.here ("bad escape \\" ++ [c]) start)
    else
      let (d, rest) ← readCharEscape start c ts
      return (.inr d, rest)

end LintMend.Pattern
