/-
LintMend.Diagnostic.Report — the findings of a build as a report to read.

The report starts with the number of marked lines and those lines themselves. After that, if
asked for, comes each finding with the lines of source code around it; the line at which the
finding points is marked.

  `markedReport`    — the marked lines
  `findingReport`   — one finding with its surroundings
  `Extractor.report` — the whole report
-/
import LintMend.Diagnostic.Extractor
import LintMend.SourceFiles

namespace LintMend

/-- Lines of text, each with a line feed. -/
def asLines (ts : List Text) : Text :=
  ts.flatMap (· ++ "\n")

/-- The width of line numbers. -/
def numberWidth : Nat := 5

/-- A number, moved to the right in a field. -/
def alignRight (width : Nat) (t : Text) : Text :=
  (List.replicate (width - t.length) ' ' : Text) ++ t

/-- A line of source code with its number. -/
def numberedLine (highlight : Option Int) (number : Int) (line : Text) : Text :=
  let mark : Text := if highlight = some number then ">" else " "
  mark ++ alignRight numberWidth (Text.ofInt number) ++ " | " ++ line

/-- Lines of source code, numbered from a number on. -/
def numberedLines (highlight : Option Int) : Int → List Text → List Text
  | _, [] => []
  | n, line :: rest => numberedLine highlight n line :: numberedLines highlight (n + 1) rest

/-- The lines around a finding, or why they cannot be shown. -/
def surroundings (files : SourceFiles) (tree : FileTree) (radius : Int) (d : Diagnostic) :
    List Text :=
  match files.window tree d.file d.line radius with
  | .error failure => ["  (" ++ failure.message ++ ")"]
  | .ok w => numberedLines w.highlight w.first w.content.lines

/-- A finding with the lines around it, after an empty line. -/
def findingReport (files : SourceFiles) (tree : FileTree) (radius : Int) (d : Diagnostic) : Text :=
  let title := d.location ++ " [" ++ d.rule ++ "]"
  asLines ([] :: title :: surroundings files tree radius d)

/-- The number of marked lines, and the lines. -/
def markedReport (marked : List Text) : Text :=
  asLines (("----- Checkstyle Errors (" ++ Text.ofNat marked.length ++ ") -----") :: marked)

/-- A report: its text as far as it goes, what is logged, and why it stops, if it does. -/
structure Report where
  text : Text
  events : List Log.Event := []
  fault : Option Extractor.LineFault := none

namespace Extractor

/-- The report on the output of a build. The diagnostics are only taken from it when their
surroundings are to be shown. -/
def report (e : Extractor) (files : SourceFiles) (tree : FileTree) (radius : Option Int)
    (output : Text) : Report :=
  let marked := markedReport (e.markedLines output)
  match radius with
  | none => { text := marked }
  | some radius =>
    match e.extract output with
    | (events, .error fault) => { text := marked, events, fault := some fault }
    | (events, .ok ds) =>
      { text := marked ++ ds.flatMap (findingReport files tree radius), events }

end Extractor

end LintMend
