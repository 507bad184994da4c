/-
LintMend.Validation.Checked — values read from data together with all problems on the way.

Fields are read independently of each other; if some are refused, all their problems are told, in
the order of the fields.

  `Checked`         — a value, or problems
  `Checked.apply`   — reading one more field
  `field`           — a field of a mapping, with a value for its absence
-/
import LintMend.Validation.Coerce

namespace LintMend.Validation

/-- A value, or the problems of the data. -/
abbrev Checked (α : Type) := Except (List Problem) α

namespace Checked

variable {α β : Type}

/-- Give a function its next argument; the problems of both are kept. -/
def apply (f : Checked (α → β)) (x : Checked α) : Checked β :=
  match f, x with
  | .ok f, .ok a => .ok (f a)
  | .ok _, .error problems => .error problems
  | .error problems, .ok _ => .error problems
  | .error first, .error more => .error (first ++ more)

/-- A value with the one problem that it has. -/
def ofReading : Reading α → Checked α
  | .ok a => .ok a
  | .error complaint => .error [⟨[], complaint⟩]

/-- The problems seen from one step further out. -/
def under (step : Step) : Checked α → Checked α
  | .ok a => .ok a
  | .error problems => .error (problems.map (·.under step))

/-- Further problems after those of a value. -/
def withProblems (problems : List Problem) (x : Checked α) : Checked α :=
  match x with
  | .ok a => if problems.isEmpty then .ok a else .error problems
  | .error first => .error (first ++ problems)

end Checked

/-- A field of a mapping, read by `read`, or `absent` if it is not there. -/
def field {α : Type} (entries : List (Datum × Datum)) (name : Text) (absent : α)
    (read : Datum → Checked α) : Checked α :=
  match Datum.lookup name entries with
  | some d => (read d).under (.field name)
  | none => .ok absent

/-- A field that is read with at most one problem. -/
def plainField {α : Type} (entries : List (Datum × Datum)) (name : Text) (absent : α)
    (read : Datum → Reading α) : Checked α :=
  field entries name absent fun d => .ofReading (read d)

/-- The entries of a mapping, which a schema of the given name asks for. -/
def entriesOf (schema : Text) : Datum → Checked (List (Datum × Datum))
  | .mapping entries => .ok entries
  | _ => .error [⟨[], .noSection schema⟩]

end LintMend.Validation
