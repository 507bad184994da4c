/-
LintMend.Log.Journal — writing log entries.

An entry that is grave enough becomes one line: its fields, then its message, the context that
is bound, and what the program says of itself. No line holds a secret. Lines go to standard
error, and to the log file if there is one.

  `Journal`       — level, form, and file
  `Journal.start` — a journal; a log file that cannot be opened is done without
  `Journal.line?` — the line of an entry
  `LogOutput`     — what was written, and `LogOutput.write`
-/
import LintMend.About
import LintMend.FileTree.Change
import LintMend.Json.Printer
import LintMend.Log.Format
import LintMend.Log.Message
import LintMend.Log.Redacted
import LintMend.Text.Case

namespace LintMend.Log

/-- The level that a word stands for, in letters of either case. -/
def Level.read (t : Text) : Except Failure Level :=
  match Level.ofTitle? t.toUpper with
  | some level => .ok level
  | none => .error (.badValue (t.toUpper.quoted ++ " is not a valid LogLevel"))

/-- The form that a word stands for, in letters of either case. -/
def Format.read (t : Text) : Except Failure Format :=
  match Format.ofName? t.toLower with
  | some format => .ok format
  | none => .error (.badValue (t.toLower.quoted ++ " is not a valid LogFormat"))

/-- A line with fields. -/
def Format.line (f : Format) (fields : Fields) : Text :=
  match f with
  | .json => (Value.dict fields).toJson.spaced
  | .console => Text.join " " (fields.map fun (name, value) => name ++ "=" ++ value.quoted)

/-- How log entries are written. -/
structure Journal where
  /-- Entries below this level are not written. -/
  level : Level := .info
  format : Format := .console
  file : Option FilePath := none
  /-- The time that is written with every entry, if it is known. -/
  time : Option Text := none
  deriving DecidableEq, Repr

/-- What was written: lines on standard error, and the tree in which the log file is. -/
structure LogOutput where
  tree : FileTree
  lines : List Text := []

namespace LogOutput

/-- Write a line to standard error. -/
def writeLine (o : LogOutput) (line : Text) : LogOutput :=
  { o with lines := o.lines ++ [line] }

/-- The bytes of a line in a file; a line that cannot be encoded is left out. -/
def lineBytes (line : Text) : Bytes :=
  match Utf8.encode (line ++ "\n") with
  | .ok bytes => bytes
  | .error _ => []

/-- Write a line to standard error and to a file. -/
def write (o : LogOutput) (file : Option FilePath) (line : Text) : LogOutput :=
  let o := o.writeLine line
  match file with
  | none => o
  | some path =>
    match o.tree.appendBytes path (lineBytes line) with
    | .ok tree => { o with tree }
    | .error _ => o

end LogOutput

namespace Journal

/-- The tree with a log file that is ready to be written. -/
def openFile (tree : FileTree) (path : FilePath) : FileTree × Except PathFault Unit :=
  match tree.makeDirectories path.parent with
  | (tree, .error fault) => (tree, .error fault)
  | (tree, .ok ()) =>
    match tree.appendBytes (tree.absolutePath path) [] with
    | .error fault => (tree, .error fault)
    | .ok tree => (tree, .ok ())

/-- A journal with its file, if one is wanted and can be opened. The file system may refuse it,
and then a line says so; a path that is no path at all is a failure. -/
def start (o : LogOutput) (j : Journal) (file : Option FilePath) :
    LogOutput × Except Failure Journal :=
  match file with
  | none => (o, .ok { j with file := none })
  | some path =>
    match openFile o.tree path with
    | (tree, .ok ()) =>
      ({ o with tree }, .ok { j with file := some (tree.absolutePath path) })
    | (tree, .error (.system errno)) =>
      let line := "Could not create log file " ++ path.text ++ ": " ++ errno.message
      ({ o with tree }.writeLine line, .ok { j with file := none })
    | (tree, .error fault) => ({ o with tree }, .error fault.failure)

/-- Whether entries of a level are written. -/
def accepts (j : Journal) (level : Level) : Bool :=
  decide (j.level.weight ≤ level.weight)

/-- All that is written of an entry with a message: its fields override the context, and what the
program says of itself overrides both. -/
def lineFields (j : Journal) (context : Fields) (e : Entry) (message : Text) : Fields :=
  let told := Fields.set "event" (.text message) e.fields
  let fresh := context.filter fun (name, _) => (Fields.get? name told).isNone
  let when : Fields := match j.time with
    | some t => [("timestamp", .text t)]
    | none => []
  let signed : Fields :=
    ("service", .text programName) :: ("version", .text programVersion) ::
      ("level", .text e.level.name) :: when
  Fields.redacted (Fields.merge (told ++ fresh) signed)

/-- The line of an entry, if it is written, with values for the places in its message. -/
def line? (j : Journal) (context : Fields) (e : Entry) (values : List Value) :
    Except Failure (Option Text) :=
  if j.accepts e.level then
    (fillMessage e.name values).map fun message =>
      some (j.format.line (j.lineFields context e message))
  else .ok none

/-- Write an event with the context that was bound when it happened. -/
def record (j : Journal) (o : LogOutput) (r : Record) : LogOutput :=
  match j.line? r.context r.event.entry [] with
  | .ok (some line) => o.write j.file line
  | _ => o

/-- Write events in order. -/
def recordAll (j : Journal) (o : LogOutput) (records : List Record) : LogOutput :=
  records.foldl j.record o

end Journal

end LintMend.Log
