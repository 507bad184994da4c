/-
LintMend.Diagnostic.Basic — one finding of a style checker.

A diagnostic says which rule is broken, where, and why; lines and columns count from one. The
checks on its parts are made once, by `Diagnostic.check`, and its type carries what they ensure.

  `Diagnostic`, `Diagnostic.check` — the finding and the way to build it
  `location`                       — `file:line:column`
  `sameFinding`                    — equality up to the line it was read from
  `groupByFile`                    — the findings of each file, files in order of appearance
-/
import LintMend.Text.Basic

namespace LintMend

/-- A finding in a source file. Its numbers have no upper bound here; those that an extractor reads
have at most 4300 digits. -/
structure Diagnostic where
  file : Text
  line : Nat
  column : Nat
  message : Text
  rule : Text
  /-- The line of build output that it was read from. -/
  rawLine : Text
  one_le_line : 1 ≤ line
  one_le_column : 1 ≤ column
  rule_ne_nil : rule ≠ []
  deriving DecidableEq, Repr

namespace Diagnostic

/-- Why parts do not make a diagnostic. -/
inductive Fault where
  | line (n : Int)
  | column (n : Int)
  | emptyRule
  deriving DecidableEq, Repr

/-- The reason in words. -/
def Fault.message : Fault → Text
  | line n => "Diagnostic line must be >= 1, got " ++ Text.ofInt n
  | column n => "Diagnostic column must be >= 1, got " ++ Text.ofInt n
  | emptyRule => "Diagnostic rule must not be empty"

/-- Build a diagnostic from its parts; the line is checked first, then the column, then the
rule. -/
def check (file : Text) (line column : Int) (message rule rawLine : Text) :
    Except Fault Diagnostic :=
  if hl : line < 1 then .error (.line line)
  else if hc : column < 1 then .error (.column column)
  else if hr : rule = [] then .error .emptyRule
  else
    .ok ⟨file, line.toNat, column.toNat, message, rule, rawLine, by omega, by omega, hr⟩

/-- The place of a finding, as checkers print it. -/
def location (d : Diagnostic) : Text :=
  d.file ++ ":" ++ Text.ofNat d.line ++ ":" ++ Text.ofNat d.column

/-- Two findings agree in everything but the line of output that they were read from. -/
def sameFinding (d e : Diagnostic) : Bool :=
  d.file == e.file && d.line == e.line && d.column == e.column && d.message == e.message &&
    d.rule == e.rule

/-- Put a finding into the group of its file, or open a new group at the end. -/
def addToGroups (d : Diagnostic) :
    List (Text × List Diagnostic) → List (Text × List Diagnostic)
  | [] => [(d.file, [d])]
  | (file, group) :: rest =>
    if file = d.file then (file, group ++ [d]) :: rest else (file, group) :: addToGroups d rest

/-- The findings of each file in order, the files in the order of their first finding. -/
def groupByFile (ds : List Diagnostic) : List (Text × List Diagnostic) :=
  ds.foldl (fun groups d => addToGroups d groups) []

end Diagnostic

end LintMend
