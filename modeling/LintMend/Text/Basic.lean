/-
LintMend.Text.Basic — text as a list of code points.

Build output, source files and replies are text. A reply can name a code point that is no
character of its own (a surrogate that stands alone), and such text has to be carried, shown and
refused only where it is written as bytes. So a code point is any number here, and `Text` is a
list of them; string constants of the library become `Text` by coercion.

  `Text.ofString`, `Text.toString`       — to and from Lean strings
  `Text.startsWith`, `dropStart?`, `contains` — comparing with a part of a text
  `Text.ofNat`, `Text.ofInt`             — decimal notation of whole numbers
  `Text.before`                          — order by code points
-/

namespace LintMend

/-- One code point of a text: a character, or a surrogate that stands alone. -/
structure CodePoint where
  val : Nat
  deriving DecidableEq, Repr, Inhabited, Hashable

namespace CodePoint

/-- The code point of a character. -/
def ofChar (c : Char) : CodePoint := ⟨c.toNat⟩

instance : Coe Char CodePoint := ⟨ofChar⟩

/-- A surrogate: half of a pair, no character of its own. -/
def isSurrogate (c : CodePoint) : Bool :=
  0xD800 ≤ c.val && c.val ≤ 0xDFFF

/-- A code point that is a character: in range and no surrogate. -/
def isScalar (c : CodePoint) : Bool :=
  c.val < 0xD800 || (0xE000 ≤ c.val && c.val < 0x110000)

/-- The character of a code point, if it is one. -/
def char? (c : CodePoint) : Option Char :=
  if c.isScalar then some (Char.ofNat c.val) else none

end CodePoint

/-- Whether a number lies in one of the closed ranges of a table. -/
def inRanges (ranges : List (Nat × Nat)) (n : Nat) : Bool :=
  ranges.any fun range => range.1 ≤ n && n ≤ range.2

/-- A text: its code points in order. -/
abbrev Text := List CodePoint

namespace Text

/-- The text of a Lean string. -/
def ofString (s : String) : Text :=
  s.toList.map CodePoint.ofChar

instance : Coe String Text := ⟨ofString⟩

/-- The Lean string of a text; what is no character becomes the replacement character. -/
def toString (t : Text) : String :=
  String.ofList (t.map fun c => c.char?.getD '\uFFFD')

/-- Whether a text begins with another. -/
def startsWith (start t : Text) : Bool :=
  start.isPrefixOf t

/-- The text after a given beginning, if it begins so. -/
def dropStart? : (start t : Text) → Option Text
  | [], t => some t
  | _ :: _, [] => none
  | a :: start, b :: t => if a = b then dropStart? start t else none

/-- Whether a code point occurs in a text. -/
def has (t : Text) (c : CodePoint) : Bool :=
  t.elem c

/-- Whether a text ends with another. -/
def endsWith (stop t : Text) : Bool :=
  stop.isSuffixOf t

/-- Whether a text holds another somewhere. -/
def contains (part : Text) : Text → Bool
  | [] => part.isEmpty
  | c :: rest => startsWith part (c :: rest) || contains part rest

/-- The texts one after the other, with a separator between each two. -/
def join (separator : Text) : List Text → Text
  | [] => []
  | [t] => t
  | t :: u :: rest => t ++ separator ++ join separator (u :: rest)

/-- Cut a text at every occurrence of one code point; there is one more piece than cuts. -/
def splitAt (c : CodePoint) : Text → List Text
  | [] => [[]]
  | d :: rest =>
    if d = c then [] :: splitAt c rest
    else
      match splitAt c rest with
      | [] => [[d]]
      | piece :: pieces => (d :: piece) :: pieces

/-- Cut a text at the first occurrence of one code point, if there is one. -/
def cut? (c : CodePoint) : Text → Option (Text × Text)
  | [] => none
  | d :: rest =>
    if d = c then some ([], rest)
    else (cut? c rest).map fun (left, right) => (d :: left, right)

/-- Cut a text at the last occurrence of one code point, if there is one. -/
def cutLast? (c : CodePoint) (t : Text) : Option (Text × Text) :=
  (cut? c t.reverse).map fun (right, left) => (left.reverse, right.reverse)

/-- The decimal notation of a natural number. -/
def ofNat (n : Nat) : Text :=
  (Nat.toDigits 10 n).map CodePoint.ofChar

/-- The decimal notation of an integer. -/
def ofInt : Int → Text
  | .ofNat n => ofNat n
  | .negSucc n => "-" ++ ofNat (n + 1)

/-- The notation of a natural number in a base up to sixteen, with small letters, filled up with
zeros to a width. -/
def ofNatBase (base width n : Nat) : Text :=
  let digits := (Nat.toDigits base n).map CodePoint.ofChar
  List.replicate (width - digits.length) ('0' : CodePoint) ++ digits

/-- Whether a text comes before another in the order of code points. -/
def before : Text → Text → Bool
  | [], [] => false
  | [], _ :: _ => true
  | _ :: _, [] => false
  | a :: t, b :: u => a.val < b.val || (a.val == b.val && before t u)

/-- The texts in the order of code points. -/
def sort (texts : List Text) : List Text :=
  texts.mergeSort fun a b => !before b a

end Text

end LintMend
