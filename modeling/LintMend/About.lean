/-
LintMend.About — what the program is called.

  `programName`, `programVersion`, `programPurpose`
-/
import LintMend.Text.Basic

namespace LintMend

/-- How the program is called. -/
def programName : Text := "checkstyle-fixer"

/-- The version of the program. -/
def programVersion : Text := "0.1.0"

/-- What the program does. -/
def programPurpose : Text :=
  "Fix Checkstyle violations reported by Gradle using a local Ollama model"

end LintMend
