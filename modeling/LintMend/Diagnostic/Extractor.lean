/-
LintMend.Diagnostic.Extractor — diagnostics in the output of a build.

A line of output reports a finding if, from some occurrence of the marker on, it reads

    marker blanks path : line : column : message [ rule ] blanks

where the path ends with the extension of the source files, line and column start with one of
the digits 1 to 9, and the rule consists of Latin letters, digits, points and low lines. Other
lines that carry the marker are skipped.

Such a line can often be read in several ways. The first occurrence of the marker that allows
any reading is taken; there the path is as short as it can be, except that a name of a single
code point before the extension is tried last. What follows the column has one reading only.

  `readTail?`   — message and rule after the column
  `readPlace?`  — line and column after the path
  `readPath?`   — the path and all after it
  `parseLine`   — one line
  `extract`     — all lines of the output
-/
import LintMend.Diagnostic.Basic
import LintMend.Json.Reader
import LintMend.Log.Event
import LintMend.Log.Preview
import LintMend.Text.Digit
import LintMend.Text.Lines
import LintMend.Text.Space

namespace LintMend

/-- What an extractor looks for: the token that a line must carry, and what paths end with. -/
structure Extractor where
  marker : Text := "[ERROR]"
  extension : Text := ".java"
  deriving DecidableEq, Repr

namespace Extractor

/-- A code point of a rule's name. -/
def isRuleChar (c : CodePoint) : Bool :=
  (0x30 ≤ c.val && c.val ≤ 0x39) || (0x41 ≤ c.val && c.val ≤ 0x5A) ||
    (0x61 ≤ c.val && c.val ≤ 0x7A) || c.val == 0x5F || c.val == 0x2E

/-- Message and rule at the end of a line: the last bracket holds the rule, only blanks follow
it, and the trimmed text before it is the message, which has no line feed. -/
def readTail? (t : Text) : Option (Text × Text) :=
  match (Text.stripEnd t).reverse with
  | [] => none
  | close :: rest =>
    if close = ']' then
      let rule := (rest.takeWhile isRuleChar).reverse
      match rest.dropWhile isRuleChar with
      | [] => none
      | bracket :: before =>
        let message := Text.strip before.reverse
        if bracket = '[' && !rule.isEmpty && !message.has '\n' then some (message, rule) else none
    else none

/-- A number as written, with the text after the colon behind it. -/
def readNumber? (t : Text) : Option (Text × Text) :=
  match t with
  | [] => none
  | first :: rest =>
    if first.isLeadingDigit then
      match rest.dropWhile CodePoint.isDigit with
      | [] => none
      | c :: after =>
        if c = ':' then some (first :: rest.takeWhile CodePoint.isDigit, after) else none
    else none

/-- The fields of a line as written. -/
structure Fields where
  path : Text
  line : Text
  column : Text
  message : Text
  rule : Text
  deriving DecidableEq, Repr

/-- Line, column, message and rule after the colon that ends a path. -/
def readPlace? (path t : Text) : Option Fields :=
  match readNumber? t with
  | none => none
  | some (line, afterLine) =>
    match readNumber? afterLine with
    | none => none
    | some (column, afterColumn) =>
      (readTail? afterColumn).map fun (message, rule) => ⟨path, line, column, message, rule⟩

/-- The fields of a line whose path has the given name before the extension. -/
def readAfterName? (extension name rest : Text) : Option Fields :=
  match Text.dropStart? extension rest with
  | some (c :: place) => if c = ':' then readPlace? (name ++ extension) place else none
  | _ => none

/-- Try longer and longer names, given the code points already in the name; a name ends with no
blank and holds no line feed. -/
def growName? (extension : Text) (name : Text) : (rest : Text) → Option Fields
  | [] => none
  | c :: rest =>
    let here := if c.isSpace then none else readAfterName? extension (name ++ [c]) rest
    match here with
    | some fields => some fields
    | none => if c = '\n' then none else growName? extension (name ++ [c]) rest

/-- The path and all after it, at the path's first code point: names of two code points and more
in turn, then the name of one. -/
def readPath? (extension t : Text) : Option Fields :=
  match t with
  | [] => none
  | c :: rest =>
    if c.isSpace then none
    else
      match growName? extension [c] rest with
      | some fields => some fields
      | none => readAfterName? extension [c] rest

/-- The fields of a line after an occurrence of the marker: blanks, then the path. -/
def readAfterMarker? (extension t : Text) : Option Fields :=
  match t with
  | [] => none
  | c :: rest =>
    if c.isSpace then readPath? extension (Text.stripStart rest) else none

/-- The fields of a line at the first occurrence of the marker that allows a reading. -/
def readFields? (e : Extractor) (t : Text) : Option Fields :=
  let here := (Text.dropStart? e.marker t).bind (readAfterMarker? e.extension)
  match here, t with
  | some fields, _ => some fields
  | none, [] => none
  | none, _ :: rest => readFields? e rest

/-- Why a line that reports a finding cannot be used. -/
inductive LineFault where
  /-- A line or column number with more digits than are read. -/
  | tooManyDigits (count : Nat)
  /-- Parts that make no diagnostic. -/
  | invalid (fault : Diagnostic.Fault)
  deriving DecidableEq, Repr

/-- The fault in words. -/
def LineFault.message : LineFault → Text
  | tooManyDigits count => Json.tooManyDigitsMessage count
  | invalid fault => fault.message

/-- The number that digits denote, if there are not too many. -/
def readDigits (digits : Text) : Except LineFault Nat :=
  if digits.length > Json.digitLimit then .error (.tooManyDigits digits.length)
  else .ok digits.digitsValue

/-- The diagnostic of a line's fields. -/
def Fields.diagnostic (f : Fields) (rawLine : Text) : Except LineFault Diagnostic :=
  match readDigits f.line with
  | .error fault => .error fault
  | .ok line =>
    match readDigits f.column with
    | .error fault => .error fault
    | .ok column =>
      match Diagnostic.check f.path line column (Text.strip f.message) f.rule rawLine with
      | .error fault => .error (.invalid fault)
      | .ok d => .ok d

/-- A line end at the end of a line. -/
def isLineEnd (c : CodePoint) : Bool :=
  c.val == 0x0A || c.val == 0x0D

/-- Whether a line carries the marker. -/
def marks (e : Extractor) (line : Text) : Bool :=
  Text.contains e.marker line

/-- The diagnostic that a line reports, if it reports one. -/
def parseLine (e : Extractor) (line : Text) : Except LineFault (Option Diagnostic) :=
  if e.marks line then
    match e.readFields? (Text.trimEnd isLineEnd line) with
    | none => .ok none
    | some fields =>
      match fields.diagnostic line.strip with
      | .ok d => .ok (some d)
      | .error fault => .error fault
  else .ok none

/-- The lines of a text that carry the marker. -/
def markedLines (e : Extractor) (text : Text) : List Text :=
  text.lines.filter e.marks

/-- Whether one of the lines reports a finding, up to the first that does. -/
def anyReports (e : Extractor) : List Text → Except LineFault Bool
  | [] => .ok false
  | line :: rest =>
    match e.parseLine line with
    | .error fault => .error fault
    | .ok (some _) => .ok true
    | .ok none => anyReports e rest

/-- Whether a text reports a finding. -/
def reports (e : Extractor) (text : Text) : Except LineFault Bool :=
  e.anyReports (e.markedLines text)

/-- The diagnostics of lines, with the lines that were skipped; at a fault, the lines skipped
before it. -/
def parseLines (e : Extractor) : List Text → List Text × Except LineFault (List Diagnostic)
  | [] => ([], .ok [])
  | line :: rest =>
    match e.parseLine line with
    | .error fault => ([], .error fault)
    | .ok none =>
      let (skipped, result) := parseLines e rest
      (line :: skipped, result)
    | .ok (some d) =>
      let (skipped, result) := parseLines e rest
      (skipped, result.map (d :: ·))

/-- The number of distinct files that diagnostics are in. -/
def fileCount (ds : List Diagnostic) : Nat :=
  (Diagnostic.groupByFile ds).length

/-- The diagnostics of a text in order, with the log of the extraction: each skipped line, then
the counts. -/
def extract (e : Extractor) (text : Text) : List Log.Event × Except LineFault (List Diagnostic) :=
  let (skipped, result) := e.parseLines (e.markedLines text)
  let skips := skipped.map fun line =>
    Log.Event.lineSkipped (Text.preview (some Text.previewLimit) line.strip)
  match result with
  | .error fault => (skips, .error fault)
  | .ok ds =>
    (skips ++ [Log.Event.diagnosticsExtracted ds.length skipped.length (fileCount ds)], .ok ds)

end Extractor

end LintMend
