/-
LintMend.Reply.Fence — taking a reply out of its code fence.

Generated text often comes wrapped in three backticks. One opening fence is taken away, with its
language tag if the tag fills the line, and one closing fence with the line end before it; then
the text is trimmed. Fences within the text stay.

  `dropOpening`, `dropClosing` — the two fences
  `stripFences`                — both, with the whitespace around them
-/
import LintMend.Text.Space
import LintMend.Text.Word

namespace LintMend.Fence

/-- Three backticks. -/
def ticks : Text := "```"

/-- A code point of a language tag. -/
def isTagChar (c : CodePoint) : Bool :=
  c.isWord || c = '.' || c = '+' || c = '#' || c = '-'

/-- A space or tab. -/
def isBlank (c : CodePoint) : Bool :=
  c.val == 0x20 || c.val == 0x09

/-- What follows a line end at the start of a text. -/
def afterLineEnd? : Text → Option Text
  | ⟨0x0A⟩ :: rest => some rest
  | ⟨0x0D⟩ :: ⟨0x0A⟩ :: rest => some rest
  | _ => none

/-- What follows the rest of a fence line: a tag, blanks, and the line end. -/
def afterFenceLine? (t : Text) : Option Text :=
  afterLineEnd? ((t.dropWhile isTagChar).dropWhile isBlank)

/-- The text without an opening fence: the backticks, and the rest of the line if it holds
nothing but a tag and blanks. -/
def dropOpening (t : Text) : Text :=
  match Text.dropStart? ticks t with
  | none => t
  | some rest => (afterFenceLine? rest).getD rest

/-- A text, written backwards, without a line end at its front. -/
def dropLineEndBackwards : Text → Text
  | ⟨0x0A⟩ :: ⟨0x0D⟩ :: rest => rest
  | ⟨0x0A⟩ :: rest => rest
  | ⟨0x0D⟩ :: rest => rest
  | t => t

/-- The text without a closing fence: the backticks at its end, and the line end, or lone
carriage return, before them. -/
def dropClosing (t : Text) : Text :=
  match Text.dropStart? ticks t.reverse with
  | none => t
  | some rest => (dropLineEndBackwards rest).reverse

/-- The text of a reply without one fence around it and without outer whitespace. -/
def stripFences (t : Text) : Text :=
  (dropClosing (dropOpening t.strip)).strip

end LintMend.Fence
