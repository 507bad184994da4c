/-
LintMend.Configuration.Variables — configuration by environment variables.

A variable whose name starts with `CHECKSTYLE_FIXER_`, in letters of either case, configures the
section that it names: as a whole, by JSON, or one field, after two low lines. A field that is a
list or has fields of its own is given by JSON.

  `Environment.sections` — what an environment says, section by section
-/
import LintMend.Configuration.Reference
import LintMend.Configuration.Section
import LintMend.Validation.Mapping

namespace LintMend.Environment

/-- The start of the names of variables that configure. -/
def variablePrefix : Text := "checkstyle_fixer_"

/-- The variables by their names in small letters; of two with one name the last counts. -/
def byLowerName (env : Environment) : Environment :=
  env.foldl (fun done (name, value) =>
    let low := name.toLower
    if done.any (·.1 == low) then
      done.map fun (n, v) => if n == low then (n, value) else (n, v)
    else done ++ [(low, value)]) []

/-- Cut a name at every two low lines. -/
def splitNested : Text → List Text
  | [] => [[]]
  | ⟨0x5F⟩ :: ⟨0x5F⟩ :: rest => [] :: splitNested rest
  | c :: rest =>
    match splitNested rest with
    | [] => [[c]]
    | part :: parts => (c :: part) :: parts

/-- Whether a field is given by JSON: a list, or a section within the section. -/
def isStructured (s : Section) (way : List Text) : Bool :=
  match s, way with
  | .build, [name] => name == ("command" : Text)
  | .log, [name] => name == ("file" : Text)
  | _, _ => false

/-- Give the field at the end of a way a value. What is no mapping on the way stays. -/
def setField (value : Datum) : List Text → List (Datum × Datum) → List (Datum × Datum)
  | [], entries => entries
  | [name], entries => Datum.setEntry (.text name) value entries
  | name :: rest, entries =>
    match Datum.lookup name entries with
    | some (.mapping inner) =>
      Datum.setEntry (.text name) (.mapping (setField value rest inner)) entries
    | some _ => entries
    | none => Datum.setEntry (.text name) (.mapping (setField value rest [])) entries

/-- The value of a variable for a field. -/
def fieldValue (s : Section) (way : List Text) (t : Text) : Except Failure Datum :=
  if isStructured s way && !t.isEmpty then
    match Json.read t with
    | .ok j => .ok (.ofJson j)
    | .error _ => .error (.settings s.name)
  else .ok (.text t)

/-- What the variables for single fields of a section say. -/
def nestedFields (env : Environment) (s : Section) : Except Failure (List (Datum × Datum)) :=
  env.foldlM (fun entries (name, value) =>
    match Text.dropStart? (variablePrefix ++ s.name ++ "__") name with
    | none => .ok entries
    | some rest =>
      let way := splitNested rest
      (fieldValue s way value).map fun d => setField d way entries) []

/-- The entries with names of fields in the spelling of the schema. -/
def respell (names : List Text) (entries : List (Datum × Datum)) : List (Datum × Datum) :=
  Datum.ofEntries (entries.map fun (key, value) =>
    match key with
    | .text t =>
      match names.find? (·.toLower == t.toLower) with
      | some name => (.text name, value)
      | none => (key, value)
    | _ => (key, value))

/-- The names of the fields of the log file's section. -/
def logFileFields : List Text := ["enabled", "path"]

/-- A section's data with names of fields in the spelling of the schema. -/
def respellSection (s : Section) (entries : List (Datum × Datum)) : Datum :=
  let entries := respell s.fields entries
  .mapping (match s with
    | .log => entries.map fun (key, value) =>
        match key.isText "file", value with
        | true, .mapping inner => (key, .mapping (respell logFileFields inner))
        | _, _ => (key, value)
    | _ => entries)

/-- What the environment says about a section, if anything. -/
def sectionData (env : Environment) (s : Section) : Except Failure (Option Datum) :=
  match env.lookup (variablePrefix ++ s.name) with
  | none => do
    let entries ← env.nestedFields s
    return if entries.isEmpty then none else some (respellSection s entries)
  | some t =>
    match Json.read t with
    | .error _ => .error (.settings s.name)
    | .ok (.object fields) => do
      let entries ← env.nestedFields s
      return some (respellSection s (Datum.mergeEntries (Datum.ofFields fields) entries))
    | .ok .null => .ok none
    | .ok j => .ok (some (.ofJson j))

/-- What the environment says, section by section. -/
def sections (env : Environment) : Except Failure (List (Datum × Datum)) :=
  let env := env.byLowerName
  Section.all.foldlM (fun entries s =>
    (env.sectionData s).map fun d? =>
      match d? with
      | some d => entries ++ [(.text s.name, d)]
      | none => entries) []

end LintMend.Environment
