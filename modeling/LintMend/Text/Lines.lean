/-
LintMend.Text.Lines — the lines of a text.

What ends a line depends on who reads it. `Text.linesBy` cuts at the code points of a given
set, a carriage return with the line feed after it being one boundary; a boundary at the very
end does not open another line. Two sets are in use:

  `isLineBreak`       — every code point that ends a line in some convention (`Text.lines`)
  `isSourceLineBreak` — line feed and carriage return, by which compilers count (`Text.sourceLines`)

and `Text.unifyLineEnds` turns the line ends of a file into line feeds.
-/
import LintMend.Text.Basic

namespace LintMend

namespace CodePoint

/-- A code point that ends a line in some convention. -/
def isLineBreak (c : CodePoint) : Bool :=
  (0x0A ≤ c.val && c.val ≤ 0x0D) || (0x1C ≤ c.val && c.val ≤ 0x1E) || c.val == 0x85 ||
    c.val == 0x2028 || c.val == 0x2029

/-- A code point that ends a line of source code. -/
def isSourceLineBreak (c : CodePoint) : Bool :=
  c.val == 0x0A || c.val == 0x0D

end CodePoint

namespace Text

/-- The pieces of a text between the code points of a set, a carriage return and the line feed
after it counting as one; the text after the last boundary is a piece only if it is not empty. -/
def linesBy (ends : CodePoint → Bool) : Text → List Text
  | [] => []
  | ⟨0x0D⟩ :: ⟨0x0A⟩ :: rest => [] :: linesBy ends rest
  | c :: rest =>
    if ends c then [] :: linesBy ends rest
    else
      match linesBy ends rest with
      | [] => [[c]]
      | line :: lines => (c :: line) :: lines

/-- The lines of a text, whatever convention ends them. -/
def lines (t : Text) : List Text :=
  linesBy CodePoint.isLineBreak t

/-- The lines of a source file as a compiler counts them. -/
def sourceLines (t : Text) : List Text :=
  linesBy CodePoint.isSourceLineBreak t

/-- The text with each carriage return, and the line feed after it if there is one, replaced by
a line feed. -/
def unifyLineEnds : Text → Text
  | [] => []
  | ⟨0x0D⟩ :: ⟨0x0A⟩ :: rest => ⟨0x0A⟩ :: unifyLineEnds rest
  | c :: rest => (if c.val = 0x0D then ⟨0x0A⟩ else c) :: unifyLineEnds rest

end Text

end LintMend
