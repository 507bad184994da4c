/-
LintMend.Json.Basic — JSON values.

Whole numbers are kept apart from numbers with a point or an exponent, integers are unbounded,
and text may hold surrogates that stand alone. The fields of an object have distinct names and
keep the order of their first appearance.

  `Json`                 — the values
  `Json.field?`, `setField` — the fields of an object
-/
import LintMend.Decimal.Reading

namespace LintMend

/-- A JSON value. -/
inductive Json where
  | null
  | bool (b : Bool)
  | int (n : Int)
  | float (x : Float)
  | string (t : Text)
  | array (items : List Json)
  | object (fields : List (Text × Json))
  deriving Inhabited, Repr

namespace Json

/-- The value of a field, by name. -/
def lookup (name : Text) (fields : List (Text × Json)) : Option Json :=
  (fields.find? (·.1 == name)).map (·.2)

/-- The value of a field of an object; `none` for other values. -/
def field? (name : Text) : Json → Option Json
  | object fields => lookup name fields
  | _ => none

/-- Give a field a value: in its place if the name is there, at the end otherwise. -/
def setField (name : Text) (value : Json) : List (Text × Json) → List (Text × Json)
  | [] => [(name, value)]
  | (n, v) :: rest =>
    if n = name then (name, value) :: rest else (n, v) :: setField name value rest

/-- An object from fields of which the last of one name counts. -/
def ofFields (fields : List (Text × Json)) : Json :=
  object (fields.foldl (fun kept (name, value) => setField name value kept) [])

/-- The text of a string value. -/
def text? : Json → Option Text
  | string t => some t
  | _ => none

/-- The name of the kind of a value, as error texts give it. -/
def kindName : Json → Text
  | null => "NoneType"
  | bool _ => "bool"
  | int _ => "int"
  | float _ => "float"
  | string _ => "str"
  | array _ => "list"
  | object _ => "dict"

/-- A value that counts as nothing: null, false, zero, and whatever is empty. -/
def isEmptyLike : Json → Bool
  | null => true
  | bool b => !b
  | int n => n == 0
  | float x => x == 0.0
  | string t => t.isEmpty
  | array items => items.isEmpty
  | object fields => fields.isEmpty

end Json

end LintMend
