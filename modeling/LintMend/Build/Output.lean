/-
LintMend.Build.Output — where the output of a build is read from.

It may be kept in a file or come from standard input. Either way every line ends with a line
feed once it is read, and in a file, bytes that are no text are replaced.

  `readOutput` — the output kept under a name, where a hyphen stands for standard input
-/
import LintMend.FileTree.Lookup
import LintMend.Text.Lines

namespace LintMend

/-- The name that stands for standard input. -/
def standardInputName : Text := "-"

/-- The output of a build that was kept under a name. -/
def readOutput (tree : FileTree) (input source : Text) : Except Failure Text :=
  if source = standardInputName then .ok input.unifyLineEnds
  else
    match tree.readBytes (.ofText source) with
    | .error fault => .error fault.failure
    | .ok bytes => .ok (Utf8.decodeLossy bytes).unifyLineEnds

end LintMend
