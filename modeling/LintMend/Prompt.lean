/-
LintMend.Prompt — the instruction that asks for one correction.

The prompt is a function of the diagnostic and of the file's content alone. It holds the content
verbatim and whole, since the reply has to be the whole file.

  `languageOf` — the language of a source file, by its extension
  `Prompt.text`  — the instruction
  `FixRequest`   — a diagnostic, the content it is to be fixed in, and the instruction
-/
import LintMend.Diagnostic.Basic

namespace LintMend

/-- The languages that are named in prompts, by file extension. -/
def languages : List (Text × Text) :=
  [(".java", "Java"), (".kt", "Kotlin"), (".groovy", "Groovy"), (".scala", "Scala")]

/-- The name of the language of a source file; files of other kinds are just source files. -/
def languageOf (path : Text) : Text :=
  match languages.find? fun (extension, _) => Text.endsWith extension path with
  | some (_, name) => name
  | none => "source"

namespace Prompt

/-- What the instruction says between the message and the content. -/
def instructions : Text :=
  "\n</violation>\n\n<instructions>\n1. Fix ONLY the violation described above.\n" ++
  "2. Do not change formatting, names, comments or behaviour anywhere else.\n" ++
  "3. Return the COMPLETE corrected file content, from the first line to the last.\n" ++
  "4. Do not add explanations, notes or any text outside the code.\n" ++
  "</instructions>\n\n<file_content>\n"

/-- The instruction to fix one finding in a file with the given content. Line and column are written
in full: an extractor reads no number that would be too long for it. -/
def text (d : Diagnostic) (content : Text) : Text :=
  "You are fixing a single Checkstyle violation in a " ++ languageOf d.file ++
    " source file.\n\n<violation>\nFile: " ++ d.file ++
    "\nLocation: line " ++ Text.ofNat d.line ++ ", column " ++ Text.ofNat d.column ++
    "\nRule: " ++ d.rule ++
    "\nMessage: " ++ d.message ++
    instructions ++ content ++ "\n</file_content>"

end Prompt

/-- A request for one correction. -/
structure FixRequest where
  diagnostic : Diagnostic
  content : Text
  prompt : Text
  deriving DecidableEq, Repr

/-- The request to fix a finding in a file with the given content. -/
def FixRequest.of (d : Diagnostic) (content : Text) : FixRequest :=
  ⟨d, content, Prompt.text d content⟩

end LintMend
