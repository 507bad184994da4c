/-
LintMend.Log.Redacted — log values without secrets.

Every text in a log value is redacted, at any depth; keys, names of fields and all other values stay
as they are, and so does the shape.

  `Log.Value.redacted`, `Log.Fields.redacted`
-/
import LintMend.Log.Value
import LintMend.Redaction

namespace LintMend.Log

namespace Value

mutual

/-- The value with every text in it redacted. -/
def redacted : Value → Value
  | null => null
  | bool b => bool b
  | int n => int n
  | float x => float x
  | text t => text t.redacted
  | list items => list (redactedItems items)
  | tuple items => tuple (redactedItems items)
  | dict entries => dict (redactedEntries entries)

/-- The items with every text in them redacted. -/
def redactedItems : List Value → List Value
  | [] => []
  | item :: rest => item.redacted :: redactedItems rest

/-- The entries with every text in their values redacted. -/
def redactedEntries : List (Key × Value) → List (Key × Value)
  | [] => []
  | (key, value) :: rest => (key, value.redacted) :: redactedEntries rest

end

end Value

/-- The fields with every text in their values redacted. -/
def Fields.redacted (fields : Fields) : Fields :=
  fields.map fun (name, value) => (name, value.redacted)

end LintMend.Log
