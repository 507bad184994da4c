/-
LintMend.Json.Printer — writing JSON text.

  `Json.compact` — no blanks, every character that may stand for itself does
  `Json.ascii`   — no blanks, everything beyond the basic Latin block escaped
  `Json.spaced`  — the same with a blank after each comma and colon, the form of log lines
-/
import LintMend.Json.Basic

namespace LintMend

namespace Json

/-- How JSON text is written. -/
structure Style where
  asciiOnly : Bool
  comma : Text
  colon : Text

/-- An escape with four hexadecimal digits for each half of a code point. -/
def unicodeEscape (n : Nat) : Text :=
  if n < 0x10000 then "\\u" ++ Text.ofNatBase 16 4 n
  else
    "\\u" ++ Text.ofNatBase 16 4 (0xD800 + (n - 0x10000) / 0x400) ++
      "\\u" ++ Text.ofNatBase 16 4 (0xDC00 + (n - 0x10000) % 0x400)

/-- A code point within a string. -/
def escape (asciiOnly : Bool) (c : CodePoint) : Text :=
  match c.char? with
  | some '"' => "\\\""
  | some '\\' => "\\\\"
  | some '\n' => "\\n"
  | some '\r' => "\\r"
  | some '\t' => "\\t"
  | some '\x08' => "\\b"
  | some '\x0C' => "\\f"
  | _ =>
    if c.val < 0x20 || (asciiOnly && 0x7F ≤ c.val) then unicodeEscape c.val else [c]

/-- A string in quotes. -/
def quote (asciiOnly : Bool) (t : Text) : Text :=
  "\"" ++ t.flatMap (escape asciiOnly) ++ "\""

/-- A binary number; what is no finite number is written as the reader's words for it. -/
def numberText (x : Float) : Text :=
  if x.isNaN then "NaN"
  else if x.isInf then (if x < 0.0 then "-Infinity" else "Infinity")
  else floatText x

mutual

/-- The text of a value. -/
def print (s : Style) : Json → Text
  | null => "null"
  | bool true => "true"
  | bool false => "false"
  | int n => Text.ofInt n
  | float x => numberText x
  | string t => quote s.asciiOnly t
  | array items => "[" ++ printItems s items ++ "]"
  | object fields => "\x7b" ++ printFields s fields ++ "\x7d"

/-- The items of an array, with commas between them. -/
def printItems (s : Style) : List Json → Text
  | [] => []
  | [item] => print s item
  | item :: rest => print s item ++ s.comma ++ printItems s rest

/-- The fields of an object, with commas between them. -/
def printFields (s : Style) : List (Text × Json) → Text
  | [] => []
  | [(name, value)] => quote s.asciiOnly name ++ s.colon ++ print s value
  | (name, value) :: rest =>
    quote s.asciiOnly name ++ s.colon ++ print s value ++ s.comma ++ printFields s rest

end

/-- Compact text in which characters stand for themselves. -/
def compact (value : Json) : Text :=
  print ⟨false, ",", ":"⟩ value

/-- Compact text in the basic Latin block. -/
def ascii (value : Json) : Text :=
  print ⟨true, ",", ":"⟩ value

/-- Text in the basic Latin block with blanks after commas and colons. -/
def spaced (value : Json) : Text :=
  print ⟨true, ", ", ": "⟩ value

end Json

end LintMend
