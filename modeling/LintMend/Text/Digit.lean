/-
LintMend.Text.Digit — decimal digits of every script.

A decimal digit is a code point of general category Nd. They come in decades: ten
neighbours with the values 0 to 9 in order, so the table holds the zero of each decade
and a digit's value is its distance from that zero.

  `digitValue?` — the value of a digit, `none` for every other code point
  `isDigit`     — whether a code point is a decimal digit
-/
import LintMend.Text.Basic

namespace LintMend

/-- The zero of each decade of decimal digits, in increasing order. -/
def decadeZeros : List Nat :=
  [0x0030, 0x0660, 0x06F0, 0x07C0, 0x0966, 0x09E6, 0x0A66, 0x0AE6, 0x0B66, 0x0BE6, 0x0C66, 0x0CE6,
   0x0D66, 0x0DE6, 0x0E50, 0x0ED0, 0x0F20, 0x1040, 0x1090, 0x17E0, 0x1810, 0x1946, 0x19D0, 0x1A80,
   0x1A90, 0x1B50, 0x1BB0, 0x1C40, 0x1C50, 0xA620, 0xA8D0, 0xA900, 0xA9D0, 0xA9F0, 0xAA50, 0xABF0,
   0xFF10, 0x104A0, 0x10D30, 0x11066, 0x110F0, 0x11136, 0x111D0, 0x112F0, 0x11450, 0x114D0,
   0x11650, 0x116C0, 0x11730, 0x118E0, 0x11950, 0x11C50, 0x11D50, 0x11DA0, 0x16A60, 0x16AC0,
   0x16B50, 0x1D7CE, 0x1D7D8, 0x1D7E2, 0x1D7EC, 0x1D7F6, 0x1E140, 0x1E2F0, 0x1E950, 0x1FBF0]

namespace CodePoint

/-- The value of a decimal digit of any script. -/
def digitValue? (c : CodePoint) : Option Nat :=
  if c.val < 0x80 then
    if 0x30 ≤ c.val ∧ c.val ≤ 0x39 then some (c.val - 0x30) else none
  else
    (decadeZeros.find? fun first => first ≤ c.val && c.val ≤ first + 9).map (c.val - ·)

/-- A decimal digit of any script. -/
def isDigit (c : CodePoint) : Bool :=
  c.digitValue?.isSome

/-- One of the digits 1 to 9 of the basic Latin block, with which a line number starts. -/
def isLeadingDigit (c : CodePoint) : Bool :=
  0x31 ≤ c.val && c.val ≤ 0x39

end CodePoint

namespace Text

/-- The number that a run of decimal digits denotes, most significant digit first. A code
point that is no digit counts as zero. -/
def digitsValue (t : Text) : Nat :=
  t.foldl (fun n c => 10 * n + (c.digitValue?.getD 0)) 0

end Text

end LintMend
