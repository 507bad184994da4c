/-
LintMend.Log.Event — what the program reports while it works.

  `Log.Event` — everything that is logged, with what it tells
  `Log.Entry` — level, name and fields, the form in which an event is written
  `Event.entry` — from the one to the other
-/
import LintMend.Log.Value

namespace LintMend.Log

/-- How grave an entry is. -/
inductive Level where
  | debug
  | info
  | warning
  | error
  | critical
  deriving DecidableEq, Repr

namespace Level

/-- The weight by which levels are compared. -/
def weight : Level → Nat
  | debug => 10
  | info => 20
  | warning => 30
  | error => 40
  | critical => 50

/-- The level's name in small letters. -/
def name : Level → Text
  | debug => "debug"
  | info => "info"
  | warning => "warning"
  | error => "error"
  | critical => "critical"

/-- All levels, the least grave first. -/
def all : List Level := [debug, info, warning, error, critical]

end Level

/-- A log entry: level, name, and named values. -/
structure Entry where
  level : Level
  name : Text
  fields : Fields := []
  deriving Repr

/-- An event of the program. -/
inductive Event where
  | lineSkipped (line : Text)
  | diagnosticsExtracted (count skipped files : Nat)
  | fileWritten (path : Text) (bytes : Nat)
  | envelopeRejected (error : Text) (keys : List Text)
  | nothingToFix
  | runStarting (diagnostics files : Nat) (model : Text) (dryRun : Bool)
  | runComplete (files total applied wouldApply failed : Nat) (dryRun : Bool)
  | fileNotFound (diagnostics : Nat)
  | fileReadFailed (diagnostics : Nat) (error : Text)
  | sessionStarted (diagnostics : Nat)
  | fileSummary (applied wouldApply total failed : Nat)
  | fixRequested (line column : Nat) (rule : Text)
  | fixCrashed (location error : Text)
  | fixSimulated (rule : Text) (line : Nat) (changed : Bool) (wouldApply : Nat)
  | writeCrashed (location error : Text)
  | fixApplied (rule : Text) (line applied : Nat)
  | fixFailed (rule : Text) (line : Nat) (status error : Text) (failed : Nat)
  | requestStarted (model : Text) (promptLength : Nat)
  | requestCompleted (model : Text)
  | requestFailed (path error : Text)
  | requestRefused (path : Text) (status : Int) (body : Text)
  | bodyUnreadable (path shown : Text)
  | serviceReady (address version : Text)
  | serviceNotReady (attempt : Nat) (errorKind error : Text) (wait : Float)
  | operationTimedOut (limit : Float)
  | buildStarting (command : List Text) (directory : Text) (limit : Int)
  | buildFinished (status : Int) (outputLines : Nat)
  | buildFailed (command : Option (List Text)) (error : Text)
  | healthCheckStarted (address : Text)
  | healthCheckCompleted (healthy : Bool) (status : Text) (checks : Nat)
  | starting (version : Text) (configuration : Option Text)
  | configurationMissing (path error : Text)
  | configurationInvalid (error : Text)
  | healthCheckPassed (checks : Value)
  | healthCheckFailed (checks : Value)
  | serviceNeverReady (error : Text)
  | unfixed (location rule status : Text)
  | interrupted
  | fatal (error : Text)
  deriving Repr

/-- A list of texts as a value. -/
def Value.texts (ts : List Text) : Value :=
  .list (ts.map .text)

/-- The written form of an event. -/
def Event.entry : Event → Entry
  | lineSkipped line => ⟨.debug, "diagnostic_line_skipped", [("line", line)]⟩
  | diagnosticsExtracted count skipped files =>
    ⟨.info, "diagnostics_extracted", [("count", count), ("skipped", skipped), ("files", files)]⟩
  | fileWritten path bytes => ⟨.debug, "file_written", [("path", path), ("bytes", bytes)]⟩
  | envelopeRejected error keys =>
    ⟨.error, "envelope_validation_error", [("error", error), ("keys", Value.texts keys)]⟩
  | nothingToFix => ⟨.info, "run_nothing_to_fix", []⟩
  | runStarting diagnostics files model dryRun =>
    ⟨.info, "run_starting",
      [("diagnostics", diagnostics), ("files", files), ("model", model), ("dry_run", dryRun)]⟩
  | runComplete files total applied wouldApply failed dryRun =>
    ⟨.info, "run_complete",
      [("files", files), ("total", total), ("applied", applied), ("would_apply", wouldApply),
        ("failed", failed), ("dry_run", dryRun)]⟩
  | fileNotFound diagnostics => ⟨.warning, "file_not_found", [("diagnostics", diagnostics)]⟩
  | fileReadFailed diagnostics error =>
    ⟨.warning, "file_read_failed", [("diagnostics", diagnostics), ("error", error)]⟩
  | sessionStarted diagnostics =>
    ⟨.info, "file_session_started", [("diagnostics", diagnostics)]⟩
  | fileSummary applied wouldApply total failed =>
    ⟨.info, "file_fix_summary",
      [("applied", applied), ("would_apply", wouldApply), ("total", total), ("failed", failed)]⟩
  | fixRequested line column rule =>
    ⟨.info, "fix_requested", [("line", line), ("column", column), ("rule", rule)]⟩
  | fixCrashed location error =>
    ⟨.error, "fix_unexpected_error", [("location", location), ("error", error)]⟩
  | fixSimulated rule line changed wouldApply =>
    ⟨.info, "fix_dry_run",
      [("rule", rule), ("line", line), ("changed", changed), ("would_apply", wouldApply)]⟩
  | writeCrashed location error =>
    ⟨.error, "write_unexpected_error", [("location", location), ("error", error)]⟩
  | fixApplied rule line applied =>
    ⟨.info, "fix_applied", [("rule", rule), ("line", line), ("applied", applied)]⟩
  | fixFailed rule line status error failed =>
    ⟨.warning, "fix_failed",
      [("rule", rule), ("line", line), ("status", status), ("error", error), ("failed", failed)]⟩
  | requestStarted model promptLength =>
    ⟨.debug, "service_request_start", [("model", model), ("prompt_chars", promptLength)]⟩
  | requestCompleted model => ⟨.debug, "service_request_complete", [("model", model)]⟩
  | requestFailed path error =>
    ⟨.error, "service_request_error", [("path", path), ("error", error)]⟩
  | requestRefused path status body =>
    ⟨.error, "service_request_error",
      [("path", path), ("status_code", .int status), ("body", body)]⟩
  | bodyUnreadable path shown =>
    ⟨.error, "json_parse_error", [("path", path), ("response_preview", shown)]⟩
  | serviceReady address version =>
    ⟨.info, "service_ready", [("base_url", address), ("version", version)]⟩
  | serviceNotReady attempt errorKind error wait =>
    ⟨.warning, "service_not_ready",
      [("attempt", attempt), ("exception_type", errorKind), ("exception_message", error),
        ("wait_time", .float wait)]⟩
  | operationTimedOut limit => ⟨.warning, "operation_timeout", [("timeout", .float limit)]⟩
  | buildStarting command directory limit =>
    ⟨.info, "build_starting",
      [("command", Value.texts command), ("working_dir", directory), ("timeout", .int limit)]⟩
  | buildFinished status outputLines =>
    ⟨.info, "build_finished", [("return_code", .int status), ("output_lines", outputLines)]⟩
  | buildFailed (some command) error =>
    ⟨.error, "build_error", [("command", Value.texts command), ("error", error)]⟩
  | buildFailed none error => ⟨.error, "build_error", [("error", error)]⟩
  | healthCheckStarted address => ⟨.info, "health_check_start", [("base_url", address)]⟩
  | healthCheckCompleted healthy status checks =>
    ⟨.info, "health_check_complete",
      [("healthy", healthy), ("status", status), ("checks_run", checks)]⟩
  | starting version configuration =>
    ⟨.info, "starting_checkstyle_fixer",
      [("version", version),
        ("config_path", match configuration with
          | some path => .text path
          | none => .null)]⟩
  | configurationMissing path error =>
    ⟨.error, "configuration_file_not_found", [("path", path), ("error", error)]⟩
  | configurationInvalid error => ⟨.error, "configuration_invalid", [("error", error)]⟩
  | healthCheckPassed checks => ⟨.info, "health_check_passed", [("checks", checks)]⟩
  | healthCheckFailed checks => ⟨.error, "health_check_failed", [("checks", checks)]⟩
  | serviceNeverReady error => ⟨.error, "service_never_ready", [("error", error)]⟩
  | unfixed location rule status =>
    ⟨.warning, "unfixed_diagnostic",
      [("location", location), ("rule", rule), ("status", status)]⟩
  | interrupted => ⟨.info, "interrupted", []⟩
  | fatal error => ⟨.error, "fatal_error", [("error", error)]⟩

/-- An event with the context that was bound when it happened. -/
structure Record where
  event : Event
  context : Fields := []
  deriving Repr

/-- All that is written of a record: the context, overridden by what the event tells, its name
and its level. -/
def Record.fields (r : Record) : Fields :=
  let e := r.event.entry
  let named : Fields := [("event", .text e.name), ("level", .text e.level.name)]
  Fields.merge r.context (e.fields ++ named)

end LintMend.Log
