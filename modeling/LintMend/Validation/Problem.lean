/-
LintMend.Validation.Problem — what is wrong with data, and where.

  `Complaint` — why one value is refused, with its kind and its text
  `Problem`   — a complaint and the way to the value
  `Refusal`   — all problems of one check, in the order of the fields
-/
import LintMend.Text.Basic

namespace LintMend.Validation

/-- A step on the way to a value: the name of a field or the position in a list. -/
inductive Step where
  | field (name : Text)
  | index (n : Nat)
  deriving DecidableEq, Repr

/-- Why a value is refused. -/
inductive Complaint where
  | missing
  | extra
  | noText
  | brokenText
  | tooShort (least : Nat)
  | noBool
  | unreadableBool
  | noInt
  | unreadableInt
  | hugeInt
  | fractionalInt
  | infiniteInt
  | noNumber
  | unreadableNumber
  | noList
  | noPath
  | noSection (schema : Text)
  | notAmong (choices : List Text)
  | notAtLeast (bound : Text)
  | notAtMost (bound : Text)
  | notAbove (bound : Text)
  /-- A rule of the program's own is broken. -/
  | rule (message : Text)
  deriving DecidableEq, Repr

/-- Choices in quotes, with `or` before the last. -/
def choicesText : List Text → Text
  | [] => []
  | [c] => "'" ++ c ++ "'"
  | [c, d] => "'" ++ c ++ "' or '" ++ d ++ "'"
  | c :: rest => "'" ++ c ++ "', " ++ choicesText rest

namespace Complaint

/-- The kind of a complaint. -/
def kind : Complaint → Text
  | missing => "missing"
  | extra => "extra_forbidden"
  | noText => "string_type"
  | brokenText => "string_unicode"
  | tooShort _ => "string_too_short"
  | noBool => "bool_type"
  | unreadableBool => "bool_parsing"
  | noInt => "int_type"
  | unreadableInt => "int_parsing"
  | hugeInt => "int_parsing_size"
  | fractionalInt => "int_from_float"
  | infiniteInt => "finite_number"
  | noNumber => "float_type"
  | unreadableNumber => "float_parsing"
  | noList => "list_type"
  | noPath => "path_type"
  | noSection _ => "model_type"
  | notAmong _ => "literal_error"
  | notAtLeast _ => "greater_than_equal"
  | notAtMost _ => "less_than_equal"
  | notAbove _ => "greater_than"
  | rule _ => "value_error"

/-- A complaint in words. -/
def message : Complaint → Text
  | missing => "Field required"
  | extra => "Extra inputs are not permitted"
  | noText => "Input should be a valid string"
  | brokenText => "Input should be a valid string, unable to parse raw data as a unicode string"
  | tooShort least =>
    "String should have at least " ++ Text.ofNat least ++
      (if least = 1 then (" character" : Text) else " characters")
  | noBool => "Input should be a valid boolean"
  | unreadableBool => "Input should be a valid boolean, unable to interpret input"
  | noInt => "Input should be a valid integer"
  | unreadableInt => "Input should be a valid integer, unable to parse string as an integer"
  | hugeInt => "Unable to parse input string as an integer, exceeded maximum size"
  | fractionalInt => "Input should be a valid integer, got a number with a fractional part"
  | infiniteInt => "Input should be a finite number"
  | noNumber => "Input should be a valid number"
  | unreadableNumber => "Input should be a valid number, unable to parse string as a number"
  | noList => "Input should be a valid list"
  | noPath => "Input is not a valid path for <class 'pathlib.Path'>"
  | noSection schema => "Input should be a valid dictionary or instance of " ++ schema
  | notAmong choices => "Input should be " ++ choicesText choices
  | notAtLeast bound => "Input should be greater than or equal to " ++ bound
  | notAtMost bound => "Input should be less than or equal to " ++ bound
  | notAbove bound => "Input should be greater than " ++ bound
  | rule message => "Value error, " ++ message

end Complaint

/-- A complaint about the value at the end of a way. -/
structure Problem where
  way : List Step
  complaint : Complaint
  deriving DecidableEq, Repr

/-- The problem seen from one step further out. -/
def Problem.under (step : Step) (p : Problem) : Problem :=
  ⟨step :: p.way, p.complaint⟩

/-- The problems that make data unfit for a schema. -/
structure Refusal where
  schema : Text
  problems : List Problem
  deriving DecidableEq, Repr

/-- The first line of a refusal's text: how many problems there are. -/
def Refusal.headline (r : Refusal) : Text :=
  Text.ofNat r.problems.length ++
    (if r.problems.length = 1 then (" validation error for " : Text) else " validation errors for ") ++
    r.schema

end LintMend.Validation
