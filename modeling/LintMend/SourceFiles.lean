/-
LintMend.SourceFiles — the source files that diagnostics point at.

Relative paths are taken from a base directory. A file is read as a whole, its text exactly as
it is on disk, and written as a whole: plainly, into the file that the path leads to, or
atomically, by making a temporary file beside it and moving that into place.

An atomic write is kept as the row of trees that it goes through, so that what others may see
between two of its steps can be told. Each step can be made to fail.

  `SourceFiles`            — base directory and way of writing
  `isThere`, `read`        — questions
  `window`                 — the lines around a line
  `write`                  — replacing a file; `atomicWrite`, its steps
-/
import LintMend.FileTree.Change
import LintMend.Log.Event
import LintMend.Text.Lines

namespace LintMend

/-- Access to source files. -/
structure SourceFiles where
  base : FilePath := .current
  atomic : Bool := true
  deriving DecidableEq, Repr

/-- Lines of a file around a line of interest. -/
structure SourceWindow where
  path : Text
  first : Int
  last : Int
  content : Text
  highlight : Option Int
  deriving DecidableEq, Repr

namespace SourceWindow

/-- The number of lines from the first to the last. -/
def lineCount (w : SourceWindow) : Int :=
  w.last - w.first + 1

end SourceWindow

namespace SourceFiles

/-- The path of a file as a diagnostic names it. -/
def resolve (s : SourceFiles) (path : Text) : FilePath :=
  s.base.join (.ofText path)

/-- The failure of an access to a file that the file system refuses. -/
def refusal (s : SourceFiles) (path : Text) (e : Errno) : Failure :=
  .refused e [.plain (s.resolve path).text]

/-- Whether a file is there. -/
def isThere (s : SourceFiles) (t : FileTree) (path : Text) : Except Errno Bool :=
  t.isFile (s.resolve path)

/-- The text of a file that is looked for in one tree and opened in a later one. -/
def readLater (s : SourceFiles) (seen now : FileTree) (path : Text) : Except Failure Text :=
  match s.isThere seen path with
  | .error e => .error (s.refusal path e)
  | .ok false => .error (.sourceMissing path)
  | .ok true =>
    match now.readBytes (s.resolve path) with
    | .error (.system .noEntry) => .error (.sourceMissing path)
    | .error fault => .error (fault.failure [.plain (s.resolve path).text])
    | .ok bytes =>
      match Utf8.decode bytes with
      | .ok text => .ok text
      | .error e => .error (.undecodable e)

/-- The text of a file. -/
def read (s : SourceFiles) (t : FileTree) (path : Text) : Except Failure Text :=
  s.readLater t t path

/-- The place in a list of a position that counts from the end if it is below zero. -/
def clampIndex (size : Nat) (i : Int) : Nat :=
  if 0 ≤ i then min i.toNat size else size - i.natAbs

/-- The items of a list between two positions. -/
def slice {α : Type} (items : List α) (start stop : Int) : List α :=
  let i := clampIndex items.length start
  let j := clampIndex items.length stop
  (items.take j).drop i

/-- The lines of a text from `line - radius` to `line + radius`, as far as there are such lines;
beyond the end, the last line alone. -/
def windowOf (path content : Text) (line radius : Int) : SourceWindow :=
  let lines := content.lines
  let bottom : Int := max 1 lines.length
  let last := min bottom (line + radius)
  let first := min (max 1 (line - radius)) last
  { path, first, last
    content := Text.join "\n" (slice lines (first - 1) last)
    highlight := if first ≤ line ∧ line ≤ last then some line else none }

/-- The lines of a file around a line. -/
def window (s : SourceFiles) (t : FileTree) (path : Text) (line radius : Int) :
    Except Failure SourceWindow :=
  (s.read t path).map fun content => windowOf path content line radius

/-- The steps of an atomic write that touch the file system. -/
inductive WriteStep where
  | create
  | fill
  | inspect
  | setMode
  | replace
  deriving DecidableEq, Repr

/-- The files that the refusal of a step names, where a temporary file is made beside a path. -/
def WriteStep.files (here : Location) (p : FilePath) : WriteStep → List FileName
  | create | setMode => [FileTree.tempFile here p]
  | fill => []
  | inspect => [.plain p.text]
  | replace => [FileTree.tempFile here p, .plain p.text]

/-- The failure of a step that the file system refuses. -/
def WriteStep.refusal (here : Location) (p : FilePath) (step : WriteStep) (e : Errno) : Failure :=
  .refused e (step.files here p)

/-- A write: the trees on its way, the tree that it leaves, and whether it succeeded. -/
structure WriteTrace where
  passed : List FileTree
  final : FileTree
  result : Except Failure Unit

/-- A write that stops: its temporary file is taken away. -/
def abandon (passed : List FileTree) (t : FileTree) (temp : Location) (failure : Failure) :
    WriteTrace :=
  ⟨passed ++ [t], t.erase temp, .error failure⟩

/-- The permission bits that a file written to a path is to have: those of what the path leads
to, or those of a private file. -/
def modeFor (t : FileTree) (p : FilePath) : Except Failure (Option Nat) :=
  match t.isPresent p with
  | .error e => .error (WriteStep.inspect.refusal t.current p e)
  | .ok false => .ok none
  | .ok true =>
    match t.stat p with
    | .error fault => .error (fault.failure (WriteStep.inspect.files t.current p))
    | .ok e => .ok (some e.mode)

/-- The last step: move the temporary file into place. -/
def replaceStep (fault : WriteStep → Option Errno) (passed : List FileTree) (t : FileTree)
    (temp : Location) (p : FilePath) : WriteTrace :=
  match fault .replace with
  | some e => abandon passed t temp (WriteStep.replace.refusal t.current p e)
  | none =>
    match t.rename temp p with
    | .error f => abandon passed t temp (f.failure (WriteStep.replace.files t.current p))
    | .ok final => ⟨passed ++ [t], final, .ok ()⟩

/-- Write bytes to a path by way of a temporary file: make it, fill it, give it the permission
bits of the file to be replaced, and move it into place. Any step can be made to fail. -/
def atomicWrite (fault : WriteStep → Option Errno) (t : FileTree) (p : FilePath) (bytes : Bytes) :
    WriteTrace :=
  match fault .create with
  | some e => ⟨[], t, .error (WriteStep.create.refusal t.current p e)⟩
  | none =>
    match t.createTemp p with
    | .error f => ⟨[], t, .error (f.failure (WriteStep.create.files t.current p))⟩
    | .ok (temp, created) =>
      match fault .fill with
      | some e => abandon [t] created temp (WriteStep.fill.refusal t.current p e)
      | none =>
        let filled := created.setBytes temp bytes
        match fault .inspect with
        | some e => abandon [t, created] filled temp (WriteStep.inspect.refusal t.current p e)
        | none =>
          match modeFor filled p with
          | .error failure => abandon [t, created] filled temp failure
          | .ok none => replaceStep fault [t, created] filled temp p
          | .ok (some mode) =>
            match fault .setMode with
            | some e => abandon [t, created] filled temp (WriteStep.setMode.refusal t.current p e)
            | none => replaceStep fault [t, created, filled] (filled.setMode temp mode) temp p

/-- Write bytes into the file that a path leads to. If that fails, it fails before the file is
touched. -/
def plainWrite (t : FileTree) (p : FilePath) (bytes : Bytes) : WriteTrace :=
  match t.writeBytes p bytes with
  | .error f => ⟨[], t, .error (f.failure [.plain p.text])⟩
  | .ok final => ⟨[t], final, .ok ()⟩

/-- Replace the text of a file, given which steps fail. Text that cannot be encoded leaves the
file untouched. -/
def writeTrace (s : SourceFiles) (fault : WriteStep → Option Errno) (t : FileTree)
    (path content : Text) : WriteTrace :=
  match Utf8.encode content with
  | .error e => ⟨[], t, .error (.unencodable e)⟩
  | .ok bytes =>
    if s.atomic then atomicWrite fault t (s.resolve path) bytes
    else plainWrite t (s.resolve path) bytes

/-- What a finished write logs: an atomic one is reported with path and size. -/
def writeEvents (s : SourceFiles) (path content : Text) : List Log.Event :=
  match s.atomic, Utf8.encode content with
  | true, .ok bytes => [.fileWritten (s.resolve path).text bytes.length]
  | _, _ => []

/-- Replace the text of a file. -/
def write (s : SourceFiles) (t : FileTree) (path content : Text) :
    FileTree × List Log.Event × Except Failure Unit :=
  let trace := s.writeTrace (fun _ => none) t path content
  match trace.result with
  | .ok () => (trace.final, s.writeEvents path content, .ok ())
  | .error failure => (trace.final, [], .error failure)

end SourceFiles

end LintMend
