/-
LintMend.Fixing.Run — fixing diagnostics one at a time, file by file.

Each request holds the file as the last successful fix left it. A failure is recorded with its
diagnostic and stops nothing; a file that cannot be read fails all its diagnostics. In a dry run
fixes are counted and followed, but not written.

  `Fixer`            — service, files, and whether it is a dry run
  `fixDiagnostic`    — one attempt
  `fixFile`          — the diagnostics of one file
  `run`              — all diagnostics, grouped by file
-/
import LintMend.Fixing.Outcome
import LintMend.Fixing.World
import LintMend.Prompt
import LintMend.Reply.Envelope
import LintMend.SourceFiles

namespace LintMend

/-- What fixes diagnostics: a service, access to files, and whether fixes are only simulated. -/
structure Fixer (σ : Type) where
  service : Service σ
  files : SourceFiles
  dryRun : Bool := false
  /-- The wording of the errors that are recorded: with the files that a refusal names, or without. -/
  wording : Wording := .short

namespace Fixer

variable {σ : Type}

/-- The file content that an answer of the service brings, with the events of looking at it.
Empty content is a failure, never an unchanged file. -/
def usableContent (result : Except Failure Json) : List Log.Event × Except Failure Text :=
  match result with
  | .error failure => ([], .error failure)
  | .ok value =>
    match replyContent value with
    | (events, .error failure) => (events, .error failure)
    | (events, .ok content) =>
      if content.isEmpty then
        (events, .error (.emptyReply "Generation service returned no usable content"))
      else (events, .ok content)

/-- The status under which a failure of the service is recorded. -/
def statusOf : Failure → Status
  | .serviceUnavailable _ => .serviceUnavailable
  | .malformedReply .. => .malformedReply
  | .emptyReply _ => .emptyFix
  | _ => .error

/-- Record a failed attempt. -/
def fail (w : World σ) (s : Session) (d : Diagnostic) (status : Status) (error : Text) :
    World σ × Session × Outcome :=
  let o : Outcome := ⟨d, status, some error⟩
  let s := s.recordFailure o
  (w.emit (.fixFailed d.rule d.line status.name error s.failed), s, o)

/-- Record a failed answer of the service; a failure of no expected kind is logged as such. -/
def failAnswer (f : Fixer σ) (w : World σ) (s : Session) (d : Diagnostic) (failure : Failure) :
    World σ × Session × Outcome :=
  let status := statusOf failure
  let error := failure.text f.wording
  let w := if status = .error then w.emit (.fixCrashed d.location error) else w
  fail w s d status error

/-- Record a failed write; a failure of no expected kind is logged as such. -/
def failWrite (f : Fixer σ) (w : World σ) (s : Session) (d : Diagnostic) (failure : Failure) :
    World σ × Session × Outcome :=
  let error := failure.text f.wording
  let w := if failure.isFileFailure then w else w.emit (.writeCrashed d.location error)
  fail w s d .writeFailed error

/-- Ask the service for a file without the finding. -/
def request (f : Fixer σ) (w : World σ) (s : Session) (d : Diagnostic) :
    World σ × Except Failure Text :=
  let w := w.emit (.fixRequested d.line d.column d.rule)
  let (w, result) := w.ask f.service (FixRequest.of d s.current).prompt
  let (events, content) := usableContent result
  (w.emitAll events, content)

/-- Write content to the session's file, unless the write is made to fail. A write that fails leaves
the file as it was: nothing here fails halfway, as a full disk would make a plain write do, which
empties the file before it fills it. -/
def writeContent (f : Fixer σ) (w : World σ) (path content : Text) :
    World σ × Except Failure Unit :=
  match w.writeFault with
  | some failure => ({ w with writeFault := none }, .error failure)
  | none =>
    let w := w.othersAct
    let (tree, events, result) := f.files.write w.tree path content
    ((w.afterWrite tree).emitAll events, result.mapError (·.drawn (w.draws 0)))

/-- Record a fix that a dry run does not make. -/
def simulate (w : World σ) (s : Session) (d : Diagnostic) (content : Text) :
    World σ × Session × Outcome :=
  let o : Outcome := ⟨d, .wouldApply, none⟩
  let next := s.recordSuccess o content
  (w.emit (.fixSimulated d.rule d.line (content != s.current) next.wouldApply), next, o)

/-- Record a fix that was written. -/
def apply (w : World σ) (s : Session) (d : Diagnostic) (content : Text) :
    World σ × Session × Outcome :=
  let o : Outcome := ⟨d, .applied, none⟩
  let next := s.recordSuccess o content
  (w.emit (.fixApplied d.rule d.line next.applied), next, o)

/-- Attempt one fix against the session's content. The outcome is recorded whatever happens,
except that trouble with looking for the file, and the operator's stop, end the run. -/
def fixDiagnostic (f : Fixer σ) (w : World σ) (s : Session) (d : Diagnostic) :
    World σ × Except Failure (Session × Outcome) :=
  let w := w.othersAct
  match f.files.isThere w.tree s.path with
  | .error e => (w, .error (f.files.refusal s.path e))
  | .ok false =>
    let (w, s, o) := fail w s d .fileNotFound (Failure.sourceMissing s.path).message
    (w, .ok (s, o))
  | .ok true =>
    match f.request w s d with
    | (w, .error .interrupted) => (w, .error .interrupted)
    | (w, .error failure) =>
      let (w, s, o) := f.failAnswer w s d failure
      (w, .ok (s, o))
    | (w, .ok content) =>
      if f.dryRun then
        let (w, s, o) := simulate w s d content
        (w, .ok (s, o))
      else
        match f.writeContent w s.path content with
        | (w, .error .interrupted) => (w, .error .interrupted)
        | (w, .error failure) =>
          let (w, s, o) := f.failWrite w s d failure
          (w, .ok (s, o))
        | (w, .ok ()) =>
          let (w, s, o) := apply w s d content
          (w, .ok (s, o))

/-- Attempt fixes in order. -/
def fixAll (f : Fixer σ) (w : World σ) (s : Session) :
    List Diagnostic → World σ × Except Failure Session
  | [] => (w, .ok s)
  | d :: rest =>
    match f.fixDiagnostic w s d with
    | (w, .error failure) => (w, .error failure)
    | (w, .ok (s, _)) => f.fixAll w s rest

/-- Read a file at the start of its session. Others may act before the look and before the
opening. -/
def readFile (f : Fixer σ) (w : World σ) (path : Text) : World σ × Except Failure Text :=
  let looked := w.othersAct
  let opened := looked.othersAct
  (opened, f.files.readLater looked.tree opened.tree path)

/-- The summary of a file whose diagnostics are attempted, or which cannot be read. -/
def fixGroup (f : Fixer σ) (w : World σ) (path : Text) (ds : List Diagnostic) :
    World σ × Except Failure FileSummary :=
  match f.readFile w path with
  | (w, .ok content) =>
    let w := w.emit (.sessionStarted ds.length)
    match f.fixAll w (.start path content) ds with
    | (w, .error failure) => (w, .error failure)
    | (w, .ok s) => (w, .ok s.summary)
  | (w, .error (.sourceMissing missing)) =>
    let failure := Failure.sourceMissing missing
    (w.emit (.fileNotFound ds.length),
      .ok (.allFailed path ds .fileNotFound failure.message))
  | (w, .error failure) =>
    if failure.isFileFailure then
      let error := failure.text f.wording
      (w.emit (.fileReadFailed ds.length error), .ok (.allFailed path ds .readFailed error))
    else (w, .error failure)

/-- Fix the diagnostics of one file, with its path bound in the log context meanwhile. -/
def fixFile (f : Fixer σ) (w : World σ) (path : Text) (ds : List Diagnostic) :
    World σ × Except Failure FileSummary :=
  match f.fixGroup (w.bind "file" (.text path)) path ds with
  | (w, .error failure) => (w.unbind "file", .error failure)
  | (w, .ok summary) =>
    let w := w.emit
      (.fileSummary summary.applied summary.wouldApply summary.total summary.failed)
    (w.unbind "file", .ok summary)

/-- Fix the diagnostics of several files, one file after the other. -/
def fixFiles (f : Fixer σ) (w : World σ) :
    List (Text × List Diagnostic) → World σ × Except Failure (List FileSummary)
  | [] => (w, .ok [])
  | (path, group) :: rest =>
    match f.fixFile w path group with
    | (w, .error failure) => (w, .error failure)
    | (w, .ok summary) =>
      match f.fixFiles w rest with
      | (w, .error failure) => (w, .error failure)
      | (w, .ok summaries) => (w, .ok (summary :: summaries))

/-- Attempt every diagnostic, file by file in the order in which the files appear. -/
def run (f : Fixer σ) (w : World σ) (ds : List Diagnostic) :
    World σ × Except Failure RunSummary :=
  let groups := Diagnostic.groupByFile ds
  if groups.isEmpty then (w.emit .nothingToFix, .ok ⟨[]⟩)
  else
    let w := w.emit (.runStarting ds.length groups.length f.service.model f.dryRun)
    match f.fixFiles w groups with
    | (w, .error failure) => (w, .error failure)
    | (w, .ok files) =>
      let r : RunSummary := ⟨files⟩
      (w.emit (.runComplete files.length r.total r.applied r.wouldApply r.failed f.dryRun), .ok r)

end Fixer

end LintMend
