/-
LintMend.CommandLine.Option — the options of the command line.

Every option has a long name, which starts with two hyphens, and some have a short one, a letter
after one hyphen. An option is a switch, or it takes a value.

  `CommandOption`       — the options
  `CommandOption.ofName?` — the option of a name
  `usageText`, `helpText` — what the program says about itself
-/
import LintMend.About
import LintMend.Text.Space

namespace LintMend

/-- An option of the command line. -/
inductive CommandOption where
  | help
  | version
  | configuration
  | input
  | directory
  | check
  | showContext
  | dryRun
  | healthCheck
  | awaitService
  | debug
  | format
  deriving DecidableEq, Repr

namespace CommandOption

/-- All options. -/
def all : List CommandOption :=
  [help, version, configuration, input, directory, check, showContext, dryRun, healthCheck,
    awaitService, debug, format]

/-- The short name of an option. -/
def shortName? : CommandOption → Option Text
  | help => some "-h"
  | configuration => some "-c"
  | input => some "-i"
  | directory => some "-C"
  | debug => some "-d"
  | _ => none

/-- The long name of an option. -/
def longName : CommandOption → Text
  | help => "--help"
  | version => "--version"
  | configuration => "--config"
  | input => "--input"
  | directory => "--working-dir"
  | check => "--check"
  | showContext => "--show-context"
  | dryRun => "--dry-run"
  | healthCheck => "--health-check"
  | awaitService => "--wait-for-service"
  | debug => "--debug"
  | format => "--format"

/-- The names of an option, the short one first. -/
def names (o : CommandOption) : List Text :=
  o.shortName?.toList ++ [o.longName]

/-- What stands for the value of an option; a switch has none. -/
def placeholder? : CommandOption → Option Text
  | configuration => some "CONFIG"
  | input => some "INPUT"
  | directory => some "WORKING_DIR"
  | awaitService => some "N"
  | format => some "\x7bjson,console\x7d"
  | _ => none

/-- Whether an option takes a value. -/
def takesValue (o : CommandOption) : Bool :=
  o.placeholder?.isSome

/-- What an option is for. -/
def purpose : CommandOption → Text
  | help => "show this help message and exit"
  | version => "show program's version number and exit"
  | configuration => "Path to YAML configuration file (default: built-in defaults)"
  | input =>
    "Read build output from this file ('-' for stdin) instead of running the build"
  | directory => "Project directory to build and resolve relative paths in"
  | check => "List Checkstyle errors and exit without fixing"
  | showContext => "With --check, print the source lines around each diagnostic"
  | dryRun => "Request fixes but do not write them to disk"
  | healthCheck => "Check the generation service and model, then exit"
  | awaitService => "Poll the generation service up to N times before fixing"
  | debug => "Enable debug logging"
  | format => "Log output format (default: console, or the config file setting)"

/-- All names with their options. -/
def allNames : List (Text × CommandOption) :=
  all.flatMap fun o => o.names.map (·, o)

/-- The option of a name. -/
def ofName? (name : Text) : Option CommandOption :=
  allNames.lookup name

/-- The options, with the names, that a beginning of a name stands for. -/
def withStart (start : Text) : List (Text × CommandOption) :=
  allNames.filter fun (name, _) => Text.startsWith start name

/-- A name with what stands for the value. -/
def form (o : CommandOption) (name : Text) : Text :=
  match o.placeholder? with
  | some p => name ++ " " ++ p
  | none => name

/-- An option as the usage shows it: its first name, in brackets as it may be left out. -/
def usageForm (o : CommandOption) : Text :=
  "[" ++ o.form (o.shortName?.getD o.longName) ++ "]"

end CommandOption

/-- Add a word to the last of some lines if the line does not grow wider than allowed, or else
begin another line with it. The lines are in reverse. -/
def addWord (width : Nat) (word : Text) : List Text → List Text
  | [] => [word]
  | line :: before =>
    if line.length + 1 + word.length ≤ width then (line ++ " " ++ word) :: before
    else word :: line :: before

/-- Words in lines of a limited width, as many as fit into each. -/
def fillLines (width : Nat) (words : List Text) : List Text :=
  (words.foldl (fun lines word => addWord width word lines) []).reverse

/-- Lines with blanks before all but the first. -/
def hangLines (indent : Nat) (lines : List Text) : Text :=
  Text.join (⟨0x0A⟩ :: List.replicate indent ' ') lines

/-- The width of help. -/
def helpWidth : Nat := 78

/-- The column at which the purposes of options start. -/
def helpColumn : Nat := 24

/-- How the program is called, with all options. -/
def usageText : Text :=
  let start := "usage: " ++ programName ++ " "
  let lines := fillLines (helpWidth - start.length) (CommandOption.all.map (·.usageForm))
  start ++ hangLines start.length lines ++ "\n"

/-- An option with its purpose. -/
def CommandOption.helpEntry (o : CommandOption) : Text :=
  let title := "  " ++ Text.join ", " (o.names.map o.form)
  let purpose := fillLines (helpWidth - helpColumn) (Text.splitAt ' ' o.purpose)
  let gap : Text :=
    if title.length + 2 ≤ helpColumn then List.replicate (helpColumn - title.length) ' '
    else ⟨0x0A⟩ :: List.replicate helpColumn ' '
  title ++ gap ++ hangLines helpColumn purpose ++ "\n"

/-- What the program says about itself. -/
def helpText : Text :=
  usageText ++ "\n" ++ programPurpose ++ "\n\noptions:\n" ++
    CommandOption.all.flatMap (·.helpEntry)

/-- What the program says about its version. -/
def versionText : Text :=
  programName ++ " " ++ programVersion ++ "\n"

end LintMend
