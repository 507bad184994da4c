/-
LintMend.Yaml.Fault — why a text is no YAML document.

A fault says what is wrong and where, and mostly also what was being read and where that began.
Its message shows the line of each place with an arrow below it; a line that is long is cut.

  `Yaml.Spot`  — a place in a document
  `Yaml.Fault` — a fault; `Fault.failure`, the failure that it is
-/
import LintMend.Failure

namespace LintMend.Yaml

/-- The end of a line. -/
def isBreak (c : CodePoint) : Bool :=
  c.val == 0x0A || c.val == 0x0D || c.val == 0x85 || c.val == 0x2028 || c.val == 0x2029

/-- A place in a document: how many code points come before it, and line and column, from 0. -/
structure Spot where
  index : Nat
  line : Nat
  column : Nat
  deriving DecidableEq, Repr

/-- What is being read when a fault is found, and where it began. -/
structure FaultContext where
  doing : Text
  began : Option Spot := none
  deriving DecidableEq, Repr

/-- Why a text is no YAML document. -/
inductive Fault where
  /-- A problem at a place. -/
  | problem (context : Option FaultContext) (what : Text) (place : Spot)
  /-- A code point may not stand in a document. -/
  | unprintable (c : CodePoint) (index : Nat)
  /-- What is written cannot be made into data. -/
  | value (failure : Failure)
  deriving DecidableEq, Repr

namespace Spot

/-- How far a line is shown before and after a place. -/
def reach : Nat := 37

/-- How much less of a long line is shown, for the mark of the cut. -/
def cutSize : Nat := 5

/-- The part of a line before or after a place, nearest first, and the mark of a cut. -/
def side (t : Text) : Text × Text :=
  let line := t.takeWhile fun c => !isBreak c && c.val != 0
  if line.length < reach then (line, []) else (line.take (reach - cutSize), " ... ")

/-- The line of a place with an arrow below it. -/
def snippet (s : Spot) (document : Text) : Text :=
  let (before, head) := side (document.take s.index).reverse
  let (after, tail) := side (document.drop s.index)
  let blanks (n : Nat) : Text := List.replicate n ' '
  blanks 4 ++ head ++ before.reverse ++ after ++ tail ++ "\n" ++
    blanks (4 + head.length + before.length) ++ "^"

/-- A place in words. -/
def message (s : Spot) (document : Text) : Text :=
  "  in \"<unicode string>\", line " ++ Text.ofNat (s.line + 1) ++ ", column " ++
    Text.ofNat (s.column + 1) ++ ":\n" ++ s.snippet document

end Spot

namespace Fault

/-- What was being read, in lines; its beginning is left out if the problem is there too. -/
def contextLines (document : Text) (place : Spot) : Option FaultContext → List Text
  | none => []
  | some c =>
    match c.began with
    | none => [c.doing]
    | some s =>
      if s.line = place.line ∧ s.column = place.column then [c.doing]
      else [c.doing, s.message document]

/-- The failure that a fault of a document is. -/
def failure (document : Text) : Fault → Failure
  | problem context what place =>
    .badDocument (Text.join "\n"
      (contextLines document place context ++ ([what, place.message document] : List Text)))
  | unprintable c index =>
    .badDocument ("unacceptable character #x" ++ Text.ofNatBase 16 4 c.val ++
      ": special characters are not allowed\n  in \"<unicode string>\", position " ++
      Text.ofNat index)
  | value failure => failure

end Fault

end LintMend.Yaml
