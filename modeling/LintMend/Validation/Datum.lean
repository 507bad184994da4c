/-
LintMend.Validation.Datum — data before it is checked against a schema.

Replies and configuration files arrive as data of any shape. `Datum` has a case for every kind
of value that the formats in use can hold; keys of a mapping need not be text.

  `Datum.ofJson` — JSON as data
  `Datum.lookup` — the value under a text key
-/
import LintMend.Json.Basic

namespace LintMend

/-- Data of any shape. -/
inductive Datum where
  | null
  | bool (b : Bool)
  | int (n : Int)
  | float (x : Float)
  | text (t : Text)
  | bytes (bs : List UInt8)
  /-- A day or a point in time; no setting takes one. -/
  | time (shown : Text)
  | list (items : List Datum)
  | tuple (items : List Datum)
  | set (items : List Datum)
  | mapping (entries : List (Datum × Datum))
  deriving Inhabited, Repr

namespace Datum

mutual

/-- JSON as data. -/
def ofJson : Json → Datum
  | .null => null
  | .bool b => bool b
  | .int n => int n
  | .float x => float x
  | .string t => text t
  | .array items => list (ofItems items)
  | .object fields => mapping (ofFields fields)

/-- The items of an array as data. -/
def ofItems : List Json → List Datum
  | [] => []
  | item :: rest => ofJson item :: ofItems rest

/-- The fields of an object as data. -/
def ofFields : List (Text × Json) → List (Datum × Datum)
  | [] => []
  | (name, value) :: rest => (text name, ofJson value) :: ofFields rest

end

/-- Whether a datum is the given text. -/
def isText (t : Text) : Datum → Bool
  | text u => u == t
  | _ => false

/-- The value under a text key of a mapping's entries. -/
def lookup (key : Text) (entries : List (Datum × Datum)) : Option Datum :=
  (entries.find? (·.1.isText key)).map (·.2)

/-- Whether a datum counts as nothing: null, false, zero, and whatever is empty. -/
def isEmptyLike : Datum → Bool
  | null => true
  | bool b => !b
  | int n => n == 0
  | float x => x == 0.0
  | text t => t.isEmpty
  | bytes bs => bs.isEmpty
  | time _ => false
  | list items => items.isEmpty
  | tuple items => items.isEmpty
  | set items => items.isEmpty
  | mapping entries => entries.isEmpty

end Datum

end LintMend
