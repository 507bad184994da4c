/-
LintMend.Log.Value — the values that log entries carry.

  `Log.Key`                      — the keys of dictionaries, and their names in JSON
  `Log.Value`                    — scalars, lists, tuples and dictionaries, nested to any depth
  `Log.Value.ofJson`, `toJson`   — from and to JSON, in which a tuple is written as an array
  `Log.Fields`                   — named values in order, with `set` and `erase`
-/
import LintMend.Json.Printer

namespace LintMend.Log

/-- A key of a dictionary: a scalar. -/
inductive Key where
  | null
  | bool (b : Bool)
  | int (n : Int)
  | float (x : Float)
  | text (t : Text)
  deriving Inhabited, Repr

/-- The name that stands for a key in JSON: a text as it is, anything else as JSON writes it. -/
def Key.name : Key → Text
  | null => Json.null.compact
  | bool b => (Json.bool b).compact
  | int n => (Json.int n).compact
  | float x => (Json.float x).compact
  | text t => t

instance : Coe Text Key := ⟨Key.text⟩
instance : Coe Key Text := ⟨Key.name⟩

/-- A value in a log entry. -/
inductive Value where
  | null
  | bool (b : Bool)
  | int (n : Int)
  | float (x : Float)
  | text (t : Text)
  | list (items : List Value)
  | tuple (items : List Value)
  | dict (entries : List (Key × Value))
  deriving Inhabited, Repr

/-- Named values in the order in which the names first appeared. -/
abbrev Fields := List (Text × Value)

/-- The entries of a dictionary whose keys are all texts. -/
def Fields.entries (fields : Fields) : List (Key × Value) :=
  fields.map fun (name, value) => (Key.text name, value)

instance : Coe Fields (List (Key × Value)) := ⟨Fields.entries⟩
instance : Coe Text Value := ⟨Value.text⟩
instance : Coe Nat Value := ⟨fun n => Value.int n⟩
instance : Coe Bool Value := ⟨Value.bool⟩

namespace Value

mutual

/-- The log value of a JSON value. -/
def ofJson : Json → Value
  | .null => null
  | .bool b => bool b
  | .int n => int n
  | .float x => float x
  | .string t => text t
  | .array items => list (ofItems items)
  | .object fields => dict (ofFields fields)

/-- The log values of the items of an array. -/
def ofItems : List Json → List Value
  | [] => []
  | item :: rest => ofJson item :: ofItems rest

/-- The log values of the fields of an object. -/
def ofFields : List (Text × Json) → List (Key × Value)
  | [] => []
  | (name, value) :: rest => (.text name, ofJson value) :: ofFields rest

end

mutual

/-- The JSON value that shows a log value. -/
def toJson : Value → Json
  | null => .null
  | bool b => .bool b
  | int n => .int n
  | float x => .float x
  | text t => .string t
  | list items => .array (toItems items)
  | tuple items => .array (toItems items)
  | dict entries => .object (toFields entries)

/-- The JSON values that show a sequence of log values. -/
def toItems : List Value → List Json
  | [] => []
  | item :: rest => toJson item :: toItems rest

/-- The JSON fields that show the entries of a dictionary. -/
def toFields : List (Key × Value) → List (Text × Json)
  | [] => []
  | (key, value) :: rest => (key.name, toJson value) :: toFields rest

end

end Value

namespace Fields

/-- Give a name a value: in its place if the name is there, at the end otherwise. -/
def set (name : Text) (value : Value) : Fields → Fields
  | [] => [(name, value)]
  | (n, v) :: rest => if n = name then (name, value) :: rest else (n, v) :: set name value rest

/-- Take a name away. -/
def erase (name : Text) (fields : Fields) : Fields :=
  fields.filter (·.1 != name)

/-- The value of a name. -/
def get? (name : Text) (fields : Fields) : Option Value :=
  (fields.find? (·.1 == name)).map (·.2)

/-- The entries of a dictionary whose keys are texts. -/
def ofEntries (entries : List (Key × Value)) : Fields :=
  entries.filterMap fun
    | (.text name, value) => some (name, value)
    | _ => none

/-- Give every name of the second its value there. -/
def merge (fields updates : Fields) : Fields :=
  updates.foldl (fun merged (name, value) => set name value merged) fields

end Fields

end LintMend.Log
