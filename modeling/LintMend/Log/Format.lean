/-
LintMend.Log.Format — how logs are written, and how much of them.

  `Log.Format`            — one JSON object a line, or text for a console
  `Level.ofName?`, `Format.ofName?` — the words for them
-/
import LintMend.Log.Event

namespace LintMend.Log

/-- The form of log lines. -/
inductive Format where
  | json
  | console
  deriving DecidableEq, Repr

namespace Format

/-- All forms. -/
def all : List Format := [json, console]

/-- The word for a form. -/
def name : Format → Text
  | json => "json"
  | console => "console"

/-- The form that a word stands for. -/
def ofName? (t : Text) : Option Format :=
  all.find? (·.name == t)

end Format

namespace Level

/-- The word for a level in capitals. -/
def title : Level → Text
  | debug => "DEBUG"
  | info => "INFO"
  | warning => "WARNING"
  | error => "ERROR"
  | critical => "CRITICAL"

/-- The level that a word in capitals stands for. -/
def ofTitle? (t : Text) : Option Level :=
  all.find? (·.title == t)

end Level

end LintMend.Log
