/-
LintMend.Yaml.Cursor — places in a YAML document.

A place knows its line and column, since in YAML they carry meaning, and the text from it on.
A mark of byte order takes no column.

  `Yaml.Cursor` — a place; `advance`, `takeBreak`, `skipSpaces`
-/
import LintMend.Yaml.Fault

namespace LintMend.Yaml

/-- A space or tab. -/
def isBlank (c : CodePoint) : Bool :=
  c.val == 0x20 || c.val == 0x09

/-- Whether a text is at its end or at the end of a line. -/
def atLineEnd : Text → Bool
  | [] => true
  | c :: _ => isBreak c

/-- Whether a text is at its end, at the end of a line, or at a space. -/
def atSpace : Text → Bool
  | [] => true
  | c :: _ => isBreak c || c.val == 0x20

/-- Whether a text is at its end, at the end of a line, or at a space or tab. -/
def atGap : Text → Bool
  | [] => true
  | c :: _ => isBreak c || isBlank c

/-- Whether a text starts with the mark of a document's start or end. -/
def atDocumentMark (t : Text) : Bool :=
  (Text.startsWith "---" t || Text.startsWith "..." t) && atGap (t.drop 3)

/-- Whether a code point may stand in a document. -/
def isPrintable (c : CodePoint) : Bool :=
  c.val == 0x09 || c.val == 0x0A || c.val == 0x0D || (0x20 ≤ c.val && c.val ≤ 0x7E) ||
    c.val == 0x85 || (0xA0 ≤ c.val && c.val ≤ 0xD7FF) || (0xE000 ≤ c.val && c.val ≤ 0xFFFD) ||
    (0x10000 ≤ c.val && c.val ≤ 0x10FFFF)

/-- A place in a document. -/
structure Cursor where
  index : Nat
  line : Nat
  column : Nat
  rest : Text
  deriving Repr

namespace Cursor

/-- The start of a document. -/
def start (t : Text) : Cursor := ⟨0, 0, 0, t⟩

/-- Where the place is. -/
def spot (c : Cursor) : Spot := ⟨c.index, c.line, c.column⟩

/-- The next code point in quotes; at the end, the code point zero. -/
def shownNext (c : Cursor) : Text :=
  Text.quoted [c.rest.headD ⟨0⟩]

/-- A problem here with what is being read. -/
def fault (c : Cursor) (doing : Text) (began : Spot) (what : Text) : Fault :=
  .problem (some ⟨doing, some began⟩) what c.spot

/-- Something else than the next code point is expected here. -/
def unlike (c : Cursor) (doing : Text) (began : Spot) (expected : Text) : Fault :=
  c.fault doing began ("expected " ++ expected ++ ", but found " ++ c.shownNext)

/-- Whether the next code point is the given one. -/
def sees (c : Cursor) (d : CodePoint) : Bool :=
  c.rest.head? == some d

/-- Go past one code point. -/
def advance (c : Cursor) : Cursor :=
  match c.rest with
  | [] => c
  | d :: rest =>
    if isBreak d && !(d.val == 0x0D && rest.head? == some ⟨0x0A⟩) then
      ⟨c.index + 1, c.line + 1, 0, rest⟩
    else if d.val = 0xFEFF then ⟨c.index + 1, c.line, c.column, rest⟩
    else ⟨c.index + 1, c.line, c.column + 1, rest⟩

/-- Go past some code points. -/
def advanceBy (c : Cursor) : Nat → Cursor
  | 0 => c
  | n + 1 => c.advance.advanceBy n

/-- The code points that pass a test, and the place after them. -/
def takeWhile (c : Cursor) (p : CodePoint → Bool) : Text × Cursor :=
  let taken := c.rest.takeWhile p
  (taken, c.advanceBy taken.length)

/-- The place after the code points that pass a test. -/
def skipWhile (c : Cursor) (p : CodePoint → Bool) : Cursor :=
  (c.takeWhile p).2

/-- The place after spaces. -/
def skipSpaces (c : Cursor) : Cursor :=
  c.skipWhile (·.val == 0x20)

/-- The place at the end of the line. -/
def skipLine (c : Cursor) : Cursor :=
  c.skipWhile (!isBreak ·)

/-- Go past the end of a line, if there is one here. It counts as a line feed, unless it is a
separator of lines or paragraphs. -/
def takeBreak (c : Cursor) : Text × Cursor :=
  match c.rest with
  | [] => ([], c)
  | d :: rest =>
    if d.val == 0x2028 || d.val == 0x2029 then ([d], c.advance)
    else if d.val == 0x0D && rest.head? == some ⟨0x0A⟩ then ("\n", c.advance.advance)
    else if isBreak d then ("\n", c.advance)
    else ([], c)

/-- Go past a comment and the end of the line. -/
def skipComment (c : Cursor) (doing : Text) (began : Spot) : Except Fault Cursor :=
  let c := c.skipSpaces
  let c := if c.sees '#' then c.skipLine else c
  if atLineEnd c.rest then .ok c.takeBreak.2
  else .error (c.unlike doing began "a comment or a line break")

end Cursor

end LintMend.Yaml
