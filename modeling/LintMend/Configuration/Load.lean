/-
LintMend.Configuration.Load — loading the configuration.

A configuration file is a YAML mapping in which references to environment variables are replaced
first. What it says counts more than what environment variables say, field by field.

  `Settings.ofData` — the configuration that data and environment make
  `Settings.load`   — the configuration of a file, or that of the environment alone
-/
import LintMend.Configuration.Variables
import LintMend.FileTree.Lookup
import LintMend.Text.Lines
import LintMend.Yaml.Value

namespace LintMend.Settings

open Validation

/-- A configuration, or the refusal of its data. -/
def ofChecked {α : Type} (schema : Text) : Checked α → Except Failure α
  | .ok a => .ok a
  | .error problems => .error (.invalid ⟨schema, problems⟩)

/-- The configuration of the environment, with entries laid over it. -/
def ofEntries? (env : Environment) (entries : List (Datum × Datum)) : Except Failure Settings :=
  match env.sections with
  | .error failure => .error failure
  | .ok below => ofChecked schema (ofEntries (Datum.mergeEntries below entries))

/-- The configuration that data and environment make. The keys of the data must be text; a
variable that cannot be read is a problem of the data. -/
def ofData (env : Environment) (d : Datum) : Except Failure Settings :=
  match d with
  | .mapping entries =>
    if entries.all fun (key, _) => match key with | .text _ => true | _ => false then
      match ofEntries? env entries with
      | .error (.settings field) =>
        .error (.invalid ⟨schema, [⟨[], .rule (Failure.settings field).message⟩]⟩)
      | result => result
    else .error (.badType "keywords must be strings")
  | _ => .error (.invalid ⟨schema, [⟨[], .noSection schema⟩]⟩)

/-- The text of a configuration file. -/
def readFile (tree : FileTree) (path : FilePath) : Except Failure Text :=
  match tree.isPresent path with
  | .error e => .error (.system e)
  | .ok false => .error (.configurationMissing path.text)
  | .ok true =>
    match tree.readBytes path with
    | .error fault => .error fault.failure
    | .ok bytes =>
      match Utf8.decode bytes with
      | .error e => .error (.undecodable e)
      | .ok t => .ok t.unifyLineEnds

/-- The configuration of a file's text. A document that is empty, or as good as empty, says
nothing. -/
def ofText (env : Environment) (path : FilePath) (t : Text) : Except Failure Settings :=
  match env.substitute t with
  | .error failure => .error failure
  | .ok document =>
    match Yaml.read document with
    | .error failure => .error failure
    | .ok d =>
      match if d.isEmptyLike then .mapping [] else d with
      | .mapping entries => ofData env (.mapping entries)
      | _ => .error (.badValue ("Configuration root must be a mapping: " ++ path.text))

/-- The configuration of a file, or without one, that of the environment alone. -/
def load (tree : FileTree) (env : Environment) : Option FilePath → Except Failure Settings
  | none => ofEntries? env []
  | some path =>
    match readFile tree path with
    | .error failure => .error failure
    | .ok t => ofText env path t

end LintMend.Settings
