/-
LintMend.Text.Quoted — text in quotes, for messages.

  `Text.quoted` — the text in single quotes, or in double quotes if it holds a single quote and
  no double quote; the quote in use, the backslash and what does not show as itself are escaped
-/
import LintMend.Text.Printable

namespace LintMend

namespace CodePoint

/-- A code point within quotes of the given kind. -/
def escaped (quote c : CodePoint) : Text :=
  if c = quote || c = '\\' then ['\\', c]
  else if c = '\n' then "\\n"
  else if c = '\r' then "\\r"
  else if c = '\t' then "\\t"
  else if c.isPrintable then [c]
  else if c.val < 0x100 then "\\x" ++ Text.ofNatBase 16 2 c.val
  else if c.val < 0x10000 then "\\u" ++ Text.ofNatBase 16 4 c.val
  else "\\U" ++ Text.ofNatBase 16 8 c.val

end CodePoint

namespace Text

/-- The text in quotes. -/
def quoted (t : Text) : Text :=
  let quote : CodePoint := if t.has '\'' && !t.has '"' then '"' else '\''
  [quote] ++ t.flatMap (CodePoint.escaped quote) ++ [quote]

end Text

end LintMend
