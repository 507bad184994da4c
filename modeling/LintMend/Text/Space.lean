/-
LintMend.Text.Space — whitespace and trimming.

  `isSpace`    — the whitespace of every script, the separators U+001C to U+001F included
  `Text.strip` — the text without the whitespace at both its ends
-/
import LintMend.Text.Basic

namespace LintMend

namespace CodePoint

/-- Whitespace. -/
def isSpace (c : CodePoint) : Bool :=
  (0x09 ≤ c.val && c.val ≤ 0x0D) || (0x1C ≤ c.val && c.val ≤ 0x20) || c.val == 0x85 ||
    c.val == 0xA0 || c.val == 0x1680 || (0x2000 ≤ c.val && c.val ≤ 0x200A) ||
    c.val == 0x2028 || c.val == 0x2029 || c.val == 0x202F || c.val == 0x205F || c.val == 0x3000

end CodePoint

namespace Text

/-- The text from its first code point on that fails the test. -/
def trimStart (drop : CodePoint → Bool) (t : Text) : Text :=
  t.dropWhile drop

/-- The text up to its last code point that fails the test. -/
def trimEnd (drop : CodePoint → Bool) (t : Text) : Text :=
  (t.reverse.dropWhile drop).reverse

/-- The text without leading whitespace. -/
def stripStart (t : Text) : Text :=
  trimStart CodePoint.isSpace t

/-- The text without trailing whitespace. -/
def stripEnd (t : Text) : Text :=
  trimEnd CodePoint.isSpace t

/-- The text without leading and trailing whitespace. -/
def strip (t : Text) : Text :=
  stripEnd (stripStart t)

/-- Whether a text is empty or whitespace only. -/
def isBlank (t : Text) : Bool :=
  t.all CodePoint.isSpace

end Text

end LintMend
