/-
LintMend.Configuration.Section — reading the configuration from data.

Each section is a mapping; what it does not name keeps its usual value, and what is unknown to it
is overlooked. Only at the outermost level is an unknown name refused.

  `ServiceSettings.read`, … — the sections
  `Settings.read`           — all of them
  `Section`                 — the sections by name, with what they are read as
-/
import LintMend.Address.Loopback
import LintMend.Configuration.Settings
import LintMend.Text.Quoted
import LintMend.Validation.Checked

namespace LintMend

open Validation

namespace ServiceSettings

/-- The name under which refusals speak of the section. -/
def schema : Text := "OllamaConfig"

/-- A temperature, from 0 to 2. -/
def readTemperature (d : Datum) : Reading Float := do
  atLeast 0.0 "0" (← atMost 2.0 "2" (← readFloat d))

/-- A time in seconds, which is above zero. -/
def readTimeout (d : Datum) : Reading Float := do
  above 0.0 "0" (← readFloat d)

/-- Why a service may not be asked. -/
def addressProblem (address : Text) (allowRemote : Bool) : Option Text :=
  match serviceAllowed address allowRemote, WebAddress.read address with
  | .ok true, _ => none
  | .error fault, _ => some fault.message
  | .ok false, .error fault => some fault.message
  | .ok false, .ok a =>
    if serviceSchemes.contains a.scheme && !a.host.isEmpty then
      some ("Ollama host " ++ a.host ++
        " not allowed. Set allow_remote_host=true to use non-localhost hosts.")
    else some ("Invalid Ollama URL: " ++ address)

/-- Settings whose service may be asked. -/
def checkAddress (s : ServiceSettings) : Checked ServiceSettings :=
  match addressProblem s.address s.allowRemote with
  | none => .ok s
  | some problem => .error [⟨[], .rule problem⟩]

/-- The fields of the section. -/
def ofEntries (entries : List (Datum × Datum)) : Checked ServiceSettings :=
  let usual : ServiceSettings := {}
  Checked.apply (.ok ServiceSettings.mk) (plainField entries "base_url" usual.address readText)
    |>.apply (plainField entries "model" usual.model readText)
    |>.apply (plainField entries "temperature" usual.temperature readTemperature)
    |>.apply (plainField entries "timeout" usual.timeout readTimeout)
    |>.apply (plainField entries "health_timeout" usual.healthTimeout readTimeout)
    |>.apply (plainField entries "allow_remote_host" usual.allowRemote readBool)

/-- Read the section. -/
def read (d : Datum) : Checked ServiceSettings := do
  (← ofEntries (← entriesOf schema d)).checkAddress

end ServiceSettings

namespace BuildSettings

/-- The name under which refusals speak of the section. -/
def schema : Text := "BuildConfig"

/-- A command, whose first word must not be blank. -/
def readCommand (d : Datum) : Checked (List Text) := do
  let words ← readTexts d
  match words with
  | first :: _ => if !first.isBlank then return words
  | [] => pure ()
  throw [⟨[], .rule "Build command must not be empty"⟩]

/-- Read the section. -/
def read (d : Datum) : Checked BuildSettings := do
  let entries ← entriesOf schema d
  let usual : BuildSettings := {}
  Checked.apply (.ok BuildSettings.mk) (field entries "command" usual.command readCommand)
    |>.apply (plainField entries "working_dir" usual.directory readPath)
    |>.apply (plainField entries "timeout" usual.timeout fun d => do
      intAtLeast 10 (← readInt d))

end BuildSettings

namespace ExtractionSettings

/-- The name under which refusals speak of the section. -/
def schema : Text := "ExtractionConfig"

/-- A file extension: a point and at least one code point more. -/
def readExtension (d : Datum) : Reading Text := do
  let t ← readText d
  if Text.startsWith "." t && decide (2 ≤ t.length) then return t
  else throw (.rule ("Extension must look like '.java', got: " ++ t.quoted))

/-- Read the section. -/
def read (d : Datum) : Checked ExtractionSettings := do
  let entries ← entriesOf schema d
  let usual : ExtractionSettings := {}
  Checked.apply (.ok ExtractionSettings.mk)
      (plainField entries "marker" usual.marker readNonEmptyText)
    |>.apply (plainField entries "extension" usual.fileExtension readExtension)

end ExtractionSettings

namespace FixingSettings

/-- The name under which refusals speak of the section. -/
def schema : Text := "FixingConfig"

/-- Read the section. -/
def read (d : Datum) : Checked FixingSettings := do
  let entries ← entriesOf schema d
  let usual : FixingSettings := {}
  Checked.apply (.ok FixingSettings.mk)
      (plainField entries "atomic_writes" usual.atomicWrites readBool)
    |>.apply (plainField entries "context_lines" usual.contextLines fun d => do
      intAtLeast 0 (← intAtMost 100 (← readInt d)))

end FixingSettings

namespace LogFileSettings

/-- The name under which refusals speak of the section. -/
def schema : Text := "FileLoggingConfig"

/-- Read the section. -/
def read (d : Datum) : Checked LogFileSettings := do
  let entries ← entriesOf schema d
  let usual : LogFileSettings := {}
  Checked.apply (.ok LogFileSettings.mk) (plainField entries "enabled" usual.enabled readBool)
    |>.apply (plainField entries "path" usual.path readPath)

end LogFileSettings

namespace LogSettings

/-- The name under which refusals speak of the section. -/
def schema : Text := "LoggingConfig"

/-- A level, by its word in capitals. -/
def readLevel (d : Datum) : Reading Log.Level := do
  let t ← readChoice (Log.Level.all.map (·.title)) d
  return (Log.Level.ofTitle? t).getD .info

/-- A form of log lines, by its word. -/
def readFormat (d : Datum) : Reading Log.Format := do
  let t ← readChoice (Log.Format.all.map (·.name)) d
  return (Log.Format.ofName? t).getD .console

/-- Read the section. -/
def read (d : Datum) : Checked LogSettings := do
  let entries ← entriesOf schema d
  let usual : LogSettings := {}
  Checked.apply (.ok LogSettings.mk) (plainField entries "level" usual.level readLevel)
    |>.apply (plainField entries "format" usual.format readFormat)
    |>.apply (field entries "file" usual.file LogFileSettings.read)

end LogSettings

/-- The sections of a configuration. -/
inductive Section where
  | service
  | build
  | extraction
  | fixing
  | log
  deriving DecidableEq, Repr

namespace Section

/-- All sections in order. -/
def all : List Section := [service, build, extraction, fixing, log]

/-- The name of a section. -/
def name : Section → Text
  | service => "ollama"
  | build => "build"
  | extraction => "extraction"
  | fixing => "fixing"
  | log => "logging"

/-- The names of a section's fields in order. -/
def fields : Section → List Text
  | service =>
    ["base_url", "model", "temperature", "timeout", "health_timeout", "allow_remote_host"]
  | build => ["command", "working_dir", "timeout"]
  | extraction => ["marker", "extension"]
  | fixing => ["atomic_writes", "context_lines"]
  | log => ["level", "format", "file"]

end Section

namespace Settings

/-- The name under which refusals speak of the whole configuration. -/
def schema : Text := "FixerConfig"

/-- The problems of names that are no sections. -/
def extraProblems (entries : List (Datum × Datum)) : List Problem :=
  entries.filterMap fun (key, _) =>
    match key with
    | .text name =>
      if Section.all.any (·.name == name) then none else some ⟨[.field name], .extra⟩
    | _ => none

/-- The configuration that a mapping's entries make. -/
def ofEntries (entries : List (Datum × Datum)) : Checked Settings :=
  let usual : Settings := {}
  Checked.apply (.ok Settings.mk)
      (field entries Section.service.name usual.service ServiceSettings.read)
    |>.apply (field entries Section.build.name usual.build BuildSettings.read)
    |>.apply (field entries Section.extraction.name usual.extraction ExtractionSettings.read)
    |>.apply (field entries Section.fixing.name usual.fixing FixingSettings.read)
    |>.apply (field entries Section.log.name usual.log LogSettings.read)
    |>.withProblems (extraProblems entries)

end Settings

end LintMend
