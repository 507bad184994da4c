/-
LintMend.CommandLine.Invocation — one invocation of the program.

The program reads its configuration, then either looks after the service's health, or takes the
output of a build and reports its findings or has them fixed. Findings that cannot be fixed do
not make an invocation fail; only what keeps the program from trying does.

The program's own events keep the form that the command line chose, also after the configuration
has chosen another one for the events of its parts.

  `Surroundings` — what an invocation finds
  `Aftermath`    — what it leaves behind
  `invoke`       — the invocation
-/
import LintMend.Build.Command
import LintMend.Build.Output
import LintMend.CommandLine.Arguments
import LintMend.Configuration.Load
import LintMend.Diagnostic.Report
import LintMend.Fixing.Run
import LintMend.Log.Journal
import LintMend.Service.Health

namespace LintMend

/-- What an invocation finds around it. -/
structure Surroundings where
  tree : FileTree
  environment : Environment := []
  /-- What stands on standard input. -/
  input : Text := []
  programs : Programs := {}
  link : Link := { reactions := [] }
  /-- The time, as log entries give it, if it is known. -/
  time : Option Text := none
  /-- The time in seconds since the start of 1970. -/
  clock : Int := 0

/-- What an invocation leaves behind. -/
structure Aftermath where
  code : Nat
  /-- Whether the command line left nothing to do. -/
  stopped : Bool := false
  output : Text := []
  /-- What was written to standard error. -/
  lines : List Text := []
  tree : FileTree
  commands : List BuildCommand := []
  link : Link

/-- An invocation while it works. -/
structure Work where
  log : Log.LogOutput
  journal : Log.Journal
  /-- The form of the program's own events. -/
  ownFormat : Log.Format
  link : Link
  output : Text := []
  commands : List BuildCommand := []

/-- The work so far, and an exit code or a failure that nothing foresees. -/
abbrev Step := Work × Except Failure Nat

namespace Work

/-- Log an event of the program itself. -/
def tell (w : Work) (e : Log.Event) : Work :=
  { w with log := { w.journal with format := w.ownFormat }.record w.log ⟨e, []⟩ }

/-- Log what a part of the program reports. -/
def relay (w : Work) (records : List Log.Record) : Work :=
  { w with log := w.journal.recordAll w.log records }

/-- Log events of a part of the program. -/
def relayEvents (w : Work) (events : List Log.Event) : Work :=
  w.relay (events.map fun e => ⟨e, []⟩)

/-- Go on with a link, the events of which are logged. -/
def relink (w : Work) (l : Link) : Work :=
  { w.relayEvents l.log with link := { l with log := [] } }

/-- End with an exit code. -/
def exit (w : Work) (code : Nat) : Step := (w, .ok code)

/-- End with a failure. -/
def fail (w : Work) (failure : Failure) : Step := (w, .error failure)

end Work

/-- The files that settings speak of. -/
def Settings.files (s : Settings) : SourceFiles :=
  ⟨s.build.directory, s.fixing.atomicWrites⟩

/-- The extractor that settings ask for. -/
def Settings.extractor (s : Settings) : Extractor :=
  ⟨s.extraction.marker, s.extraction.fileExtension⟩

/-- The build that settings ask for. -/
def Settings.buildCommand (s : Settings) : BuildCommand :=
  ⟨s.build.command, s.build.directory, s.build.timeout⟩

/-- Settings with the directory of the command line, if it names one. -/
def Settings.within (s : Settings) (directory : Option FilePath) : Settings :=
  match directory with
  | some d => { s with build := { s.build with directory := d } }
  | none => s

namespace Work

/-- Look after the service's health. -/
def checkHealth (w : Work) (c : ServiceClient) (clock : Int) : Step :=
  match HealthReport.run c clock 0.0 w.link with
  | (l, .error failure) => (w.relink l).fail failure
  | (l, .ok r) =>
    let checks : Log.Value := .list (r.checks.map fun k => .ofJson k.toJson)
    let w := w.relink l
    if r.healthy then (w.tell (.healthCheckPassed checks)).exit 0
    else (w.tell (.healthCheckFailed checks)).exit 1

/-- The output of the build, from where it is kept or from running the build. -/
def obtainOutput (w : Work) (s : Settings) (programs : Programs) (input : Text) :
    (source : Option Text) → Work × Except Failure Text
  | some source => (w, readOutput w.log.tree input source)
  | none =>
    let (events, commands, result) := s.buildCommand.run w.log.tree programs
    ({ w.relayEvents events with commands := w.commands ++ commands }, result.map (·.output))

/-- Report the findings. -/
def reportFindings (w : Work) (s : Settings) (showContext : Bool) (output : Text) : Step :=
  let radius := if showContext then some s.fixing.contextLines else none
  let r := s.extractor.report s.files w.log.tree radius output
  let w := { w.relayEvents r.events with output := w.output ++ r.text }
  match r.fault with
  | none => w.exit 0
  | some fault => w.fail (.badValue fault.message)

/-- Have diagnostics fixed, and tell which are left. -/
def fix (w : Work) (s : Settings) (c : ServiceClient) (dryRun : Bool) (ds : List Diagnostic) :
    Step :=
  let fixer : Fixer Link := { service := c.service, files := s.files, dryRun }
  let (world, result) := fixer.run { tree := w.log.tree, service := w.link } ds
  let w := { w with log := { w.log with tree := world.tree }, link := world.service }
  let w := w.relay world.log
  match result with
  | .error failure => w.fail failure
  | .ok summary =>
    let left := summary.failures.map fun o =>
      Log.Event.unfixed o.diagnostic.location o.diagnostic.rule o.status.name
    (left.foldl tell w).exit 0

/-- Wait for the service, if that is asked for, and have diagnostics fixed. -/
def fixWhenReady (w : Work) (s : Settings) (c : ServiceClient) (a : Arguments)
    (ds : List Diagnostic) : Step :=
  if a.attempts ≤ 0 then w.fix s c a.dryRun ds
  else
    match c.waitUntilReady w.link a.attempts with
    | (l, .ok _) => (w.relink l).fix s c a.dryRun ds
    | (l, .error failure) =>
      let w := w.relink l
      if failure.isForeseen then (w.tell (.serviceNeverReady failure.message)).exit 1
      else w.fail failure

/-- Have the findings in the output of a build fixed. -/
def mend (w : Work) (s : Settings) (c : ServiceClient) (a : Arguments) (output : Text) : Step :=
  match s.extractor.extract output with
  | (events, .error fault) => (w.relayEvents events).fail (.badValue fault.message)
  | (events, .ok []) => ((w.relayEvents events).tell .nothingToFix).exit 0
  | (events, .ok ds) => (w.relayEvents events).fixWhenReady s c a ds

/-- Take the output of the build, and do with it what is asked for. -/
def handleBuild (w : Work) (s : Settings) (c : ServiceClient) (a : Arguments)
    (around : Surroundings) : Step :=
  match w.obtainOutput s around.programs around.input a.input with
  | (w, .error failure) =>
    if failure.isSystem || failure.isOfBuild then
      (w.tell (.buildFailed none failure.message)).exit 1
    else w.fail failure
  | (w, .ok output) =>
    if a.check then w.reportFindings s a.showContext output else w.mend s c a output

/-- The level of entries that the command line asks for. -/
def levelFor (debug : Bool) (usual : Log.Level) : Log.Level :=
  if debug then .debug else usual

/-- Log as the settings ask for; the command line overrides them. -/
def reopenLog (w : Work) (s : LogSettings) (a : Arguments) : Work × Except Failure Unit :=
  let file := if s.file.enabled then some s.file.path else none
  let journal := { w.journal with
    level := levelFor a.debug s.level, format := a.format.getD s.format }
  match journal.start w.log file with
  | (log, .ok journal) => ({ w with log, journal }, .ok ())
  | (log, .error failure) => ({ w with log }, .error failure)

/-- Work with settings. -/
def runWith (w : Work) (s : Settings) (a : Arguments) (around : Surroundings) : Step :=
  match w.reopenLog s.log a with
  | (w, .error failure) => w.fail failure
  | (w, .ok ()) =>
    match ServiceClient.ofSettings s.service with
    | .error failure => w.fail failure
    | .ok c =>
      if a.healthCheck then w.checkHealth c around.clock else w.handleBuild s c a around

/-- Read the settings and work with them. -/
def run (w : Work) (a : Arguments) (around : Surroundings) : Step :=
  let path := a.configuration.map (·.text)
  let w := w.tell (.starting programVersion path)
  match Settings.load w.log.tree around.environment a.configuration with
  | .ok s => w.runWith (s.within a.directory) a around
  | .error failure =>
    if failure.isMissingFile then
      (w.tell (.configurationMissing (path.getD []) failure.message)).exit 1
    else if failure.isBadValue then (w.tell (.configurationInvalid failure.message)).exit 1
    else w.fail failure

/-- The exit code of finished work. What nothing foresees is told at the end. -/
def finish : Step → Work × Nat
  | (w, .ok code) => (w, code)
  | (w, .error .interrupted) => (w.tell .interrupted, 130)
  | (w, .error failure) => (w.tell (.fatal failure.message), 1)

end Work

/-- Do what arguments ask for. -/
def invokeWith (a : Arguments) (around : Surroundings) : Aftermath :=
  let format := a.format.getD .console
  let journal : Log.Journal :=
    { level := Work.levelFor a.debug .info, format, time := around.time }
  let start : Work :=
    { log := { tree := around.tree }, journal, ownFormat := format, link := around.link }
  let (w, code) := Work.finish (start.run a around)
  { code, output := w.output, lines := w.log.lines, tree := w.log.tree, commands := w.commands
    link := w.link }

/-- An invocation with the words of a command line. -/
def invoke (words : List Text) (around : Surroundings) : Aftermath :=
  match Arguments.read words with
  | .ok a => invokeWith a around
  | .error stop =>
    { code := stop.code, stopped := true, output := stop.output
      lines := stop.complaint.sourceLines, tree := around.tree, link := around.link }

end LintMend
