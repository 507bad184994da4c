/-
LintMend.Log.Shown — log values as text.

  `Value.quoted` — the value as it is written in code, texts in quotes
  `Value.shown`  — the same, but a text stands for itself
-/
import LintMend.Decimal.Shortest
import LintMend.Log.Value
import LintMend.Text.Quoted

namespace LintMend.Log

/-- The key as it is written in code. -/
def Key.quoted : Key → Text
  | null => "None"
  | bool b => if b then "True" else "False"
  | int n => Text.ofInt n
  | float x => floatText x
  | text t => t.quoted

namespace Value

mutual

/-- The value as it is written in code, a scalar as it is as a key. -/
def quoted : Value → Text
  | null => Key.null.quoted
  | bool b => (Key.bool b).quoted
  | int n => (Key.int n).quoted
  | float x => (Key.float x).quoted
  | text t => t.quoted
  | list items => "[" ++ Text.join ", " (quotedItems items) ++ "]"
  | tuple [item] => "(" ++ item.quoted ++ ",)"
  | tuple items => "(" ++ Text.join ", " (quotedItems items) ++ ")"
  | dict entries => "\x7b" ++ Text.join ", " (quotedEntries entries) ++ "\x7d"

/-- Values as they are written in code. -/
def quotedItems : List Value → List Text
  | [] => []
  | item :: rest => item.quoted :: quotedItems rest

/-- Entries of a dictionary as they are written in code. -/
def quotedEntries : List (Key × Value) → List Text
  | [] => []
  | (key, value) :: rest => (key.quoted ++ ": " ++ value.quoted) :: quotedEntries rest

end

/-- The value as text. -/
def shown : Value → Text
  | text t => t
  | v => v.quoted

/-- The name of the kind of a value, as error texts give it. -/
def kindName : Value → Text
  | null => "NoneType"
  | bool _ => "bool"
  | int _ => "int"
  | float _ => "float"
  | text _ => "str"
  | list _ => "list"
  | tuple _ => "tuple"
  | dict _ => "dict"

end Value

end LintMend.Log
