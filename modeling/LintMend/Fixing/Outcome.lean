/-
LintMend.Fixing.Outcome — what became of each diagnostic.

  `Status`, `Outcome`    — the end of one attempt
  `Session`              — a file while its diagnostics are fixed one after the other
  `FileSummary`, `RunSummary` — the counts that are reported
-/
import LintMend.Diagnostic.Basic

namespace LintMend

/-- The end of an attempt to fix one diagnostic. -/
inductive Status where
  | applied
  | wouldApply
  | fileNotFound
  | readFailed
  | serviceUnavailable
  | malformedReply
  | emptyFix
  | writeFailed
  | error
  deriving DecidableEq, Repr

namespace Status

/-- The name under which a status is reported. -/
def name : Status → Text
  | applied => "applied"
  | wouldApply => "would_apply"
  | fileNotFound => "file_not_found"
  | readFailed => "read_failed"
  | serviceUnavailable => "service_unavailable"
  | malformedReply => "malformed_response"
  | emptyFix => "empty_fix"
  | writeFailed => "write_failed"
  | error => "error"

/-- All statuses. -/
def all : List Status :=
  [applied, wouldApply, fileNotFound, readFailed, serviceUnavailable, malformedReply, emptyFix,
    writeFailed, error]

/-- The status of a name. -/
def ofName? (t : Text) : Option Status :=
  all.find? (·.name == t)

/-- A fix that was made, or would have been. -/
def succeeded : Status → Bool
  | applied | wouldApply => true
  | _ => false

end Status

/-- What became of a diagnostic. -/
structure Outcome where
  diagnostic : Diagnostic
  status : Status
  error : Option Text := none
  deriving DecidableEq, Repr

/-- Whether the attempt succeeded. -/
def Outcome.succeeded (o : Outcome) : Bool :=
  o.status.succeeded

/-- The counts for one file, reported when its diagnostics are done. -/
structure FileSummary where
  path : Text
  total : Nat
  applied : Nat
  failed : Nat
  wouldApply : Nat
  outcomes : List Outcome
  deriving DecidableEq, Repr

/-- The counts for a file none of whose diagnostics could be attempted. -/
def FileSummary.allFailed (path : Text) (ds : List Diagnostic) (status : Status) (error : Text) :
    FileSummary :=
  { path, total := ds.length, applied := 0, failed := ds.length, wouldApply := 0
    outcomes := ds.map fun d => ⟨d, status, some error⟩ }

/-- A file while its diagnostics are fixed in order. The current content is the last version that
was written, or, before the first, what was on disk. -/
structure Session where
  path : Text
  original : Text
  current : Text
  applied : Nat := 0
  failed : Nat := 0
  wouldApply : Nat := 0
  outcomes : List Outcome := []
  deriving DecidableEq, Repr

namespace Session

/-- A fresh session for a file with the given content. -/
def start (path original : Text) : Session :=
  { path, original, current := original }

/-- A fresh session that resumes from other content; empty content counts as none. -/
def resume (path original current : Text) : Session :=
  { path, original, current := if current.isEmpty then original else current }

/-- Count a fix and move on to its content. -/
def recordSuccess (s : Session) (o : Outcome) (content : Text) : Session :=
  let counted :=
    if o.status = .wouldApply then { s with wouldApply := s.wouldApply + 1 }
    else { s with applied := s.applied + 1 }
  { counted with current := content, outcomes := s.outcomes ++ [o] }

/-- Count a failed attempt; the content stays. -/
def recordFailure (s : Session) (o : Outcome) : Session :=
  { s with failed := s.failed + 1, outcomes := s.outcomes ++ [o] }

/-- The counts so far. -/
def summary (s : Session) : FileSummary :=
  { path := s.path, total := s.outcomes.length, applied := s.applied, failed := s.failed
    wouldApply := s.wouldApply, outcomes := s.outcomes }

end Session

/-- The counts of a whole run. -/
structure RunSummary where
  files : List FileSummary
  deriving DecidableEq, Repr

namespace RunSummary

/-- The number of diagnostics. -/
def total (r : RunSummary) : Nat := (r.files.map (·.total)).foldr (· + ·) 0

/-- The number of fixes made. -/
def applied (r : RunSummary) : Nat := (r.files.map (·.applied)).foldr (· + ·) 0

/-- The number of failed attempts. -/
def failed (r : RunSummary) : Nat := (r.files.map (·.failed)).foldr (· + ·) 0

/-- The number of fixes that a dry run did not make. -/
def wouldApply (r : RunSummary) : Nat := (r.files.map (·.wouldApply)).foldr (· + ·) 0

/-- The failed outcomes in the order of the run. -/
def failures (r : RunSummary) : List Outcome :=
  r.files.flatMap fun f => f.outcomes.filter (!·.succeeded)

end RunSummary

end LintMend
