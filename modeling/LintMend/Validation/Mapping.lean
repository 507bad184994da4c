/-
LintMend.Validation.Mapping — mappings as lists of entries.

Entries stand in the order in which their keys first appeared, and no key appears twice. Numbers
and switches that are equal are one key.

  `Datum.setEntry`, `ofEntries` — building mappings
  `Datum.merge`                 — one datum laid over another, mapping by mapping
-/
import LintMend.Decimal.Reading
import LintMend.Validation.Datum

namespace LintMend

namespace Datum

/-- Whether a datum can be the key of a mapping. -/
def canBeKey : Datum → Bool
  | list _ | mapping _ | set _ => false
  | _ => true

/-- The whole number that a datum is equal to. -/
def wholeNumber? : Datum → Option Int
  | bool b => some (if b then 1 else 0)
  | int n => some n
  | float x => intOfFloat? x
  | _ => none

/-- Whether two data are one key. -/
def isSameKey (a b : Datum) : Bool :=
  match a, b with
  | null, null => true
  | text t, text u => t == u
  | bytes s, bytes t => s == t
  | time s, time t => s == t
  | float x, float y => x == y
  | _, _ =>
    match a.wholeNumber?, b.wholeNumber? with
    | some m, some n => m == n
    | _, _ => false

/-- Give a key a value: in its place if the key is there, at the end otherwise. -/
def setEntry (key value : Datum) : List (Datum × Datum) → List (Datum × Datum)
  | [] => [(key, value)]
  | (k, v) :: rest =>
    if k.isSameKey key then (k, value) :: rest else (k, v) :: setEntry key value rest

/-- The mapping in which the last of several entries with one key counts. -/
def ofEntries (entries : List (Datum × Datum)) : List (Datum × Datum) :=
  entries.foldl (fun done (k, v) => setEntry k v done) []

mutual

/-- A datum laid over another: mappings are joined key by key, anything else is replaced. -/
def merge (old : Datum) : Datum → Datum
  | mapping updates =>
    match old with
    | mapping entries => mapping (mergeEntries entries updates)
    | _ => mapping updates
  | new => new

/-- Entries with others laid over them. -/
def mergeEntries (entries : List (Datum × Datum)) :
    List (Datum × Datum) → List (Datum × Datum)
  | [] => entries
  | (k, v) :: rest =>
    let value := match entries.find? (·.1.isSameKey k) with
      | some (_, old) => merge old v
      | none => v
    mergeEntries (setEntry k value entries) rest

end

end Datum

end LintMend
