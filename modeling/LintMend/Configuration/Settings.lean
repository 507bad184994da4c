/-
LintMend.Configuration.Settings — what can be configured.

  `ServiceSettings`, `BuildSettings`, `ExtractionSettings`, `FixingSettings`, `LogSettings`
  `Settings` — all of them

Every structure's default values are the configuration that applies when nothing is said.
-/
import LintMend.FilePath
import LintMend.Log.Format

namespace LintMend

/-- The text-generation service. -/
structure ServiceSettings where
  address : Text := "http://localhost:11434"
  model : Text := "qwen2.5-coder:7b"
  temperature : Float := 0.1
  /-- How long a fix may take, in seconds. -/
  timeout : Float := 120.0
  /-- How long the question for the service's version may take, in seconds. -/
  healthTimeout : Float := 5.0
  allowRemote : Bool := false
  deriving Repr

/-- The tasks of a build that the checks do not need. -/
def skippedTasks : List Text :=
  ["generateAlphaSchema", "compileJava", "compileTestJava", "compileTestDataJava",
    "compileTestFunctionalJava", "test", "testFunctional"]

/-- The build command unless another is given: all checks, and nothing that they do not need. -/
def standardCommand : List Text :=
  "./gradlew" :: "check" :: skippedTasks.flatMap fun task => (["-x", task] : List Text)

/-- The build whose output is read. -/
structure BuildSettings where
  command : List Text := standardCommand
  directory : FilePath := .current
  /-- How long the build may take, in seconds. -/
  timeout : Int := 1800
  deriving Repr

/-- What marks a diagnostic. -/
structure ExtractionSettings where
  marker : Text := "[ERROR]"
  fileExtension : Text := ".java"
  deriving Repr, DecidableEq

/-- How fixes are made. -/
structure FixingSettings where
  atomicWrites : Bool := true
  contextLines : Int := 5
  deriving Repr, DecidableEq

/-- The log file. -/
structure LogFileSettings where
  enabled : Bool := false
  path : FilePath := .ofText "checkstyle-fixer.log"
  deriving Repr, DecidableEq

/-- What is logged, and where. -/
structure LogSettings where
  level : Log.Level := .info
  format : Log.Format := .console
  file : LogFileSettings := {}
  deriving Repr, DecidableEq

/-- The whole configuration. -/
structure Settings where
  service : ServiceSettings := {}
  build : BuildSettings := {}
  extraction : ExtractionSettings := {}
  fixing : FixingSettings := {}
  log : LogSettings := {}
  deriving Repr

end LintMend
