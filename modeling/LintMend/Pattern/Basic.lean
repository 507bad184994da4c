/-
LintMend.Pattern.Basic — patterns of text.

A pattern is built from classes of code points by sequence, ordered choice, repetition (as often
as possible, or as seldom) and groups, which remember what they matched. Patterns can also look
around a place without moving, match again what a group matched, and settle for their first way
to match.

  `CharClass` — a set of code points
  `Casing`    — how far the case of letters is ignored
  `Pattern`   — the patterns
  `literal`, `anyOf`, `choice` — short ways to write them
-/
import LintMend.Text.Case
import LintMend.Text.Digit
import LintMend.Text.Space
import LintMend.Text.Word

namespace LintMend

/-- A part of a class of code points. -/
inductive ClassItem where
  | range (first last : CodePoint)
  | word
  | digit
  | space
  | notWord
  | notDigit
  | notSpace
  deriving DecidableEq, Repr

/-- Whether a code point belongs to a part of a class. -/
def ClassItem.holds (item : ClassItem) (c : CodePoint) : Bool :=
  match item with
  | range first last => first.val ≤ c.val && c.val ≤ last.val
  | word => c.isWord
  | digit => c.isDigit
  | space => c.isSpace
  | notWord => !c.isWord
  | notDigit => !c.isDigit
  | notSpace => !c.isSpace

/-- The parts of a class that stand for a part within the basic Latin block: what it names there,
or what it does not name there. -/
def ClassItem.latin : ClassItem → List ClassItem
  | word => [.range '0' '9', .range 'A' 'Z', .range '_' '_', .range 'a' 'z']
  | digit => [.range '0' '9']
  | space => [.range ⟨0x09⟩ ⟨0x0D⟩, .range ' ' ' ']
  | notWord =>
    [.range ⟨0⟩ ⟨0x2F⟩, .range ⟨0x3A⟩ ⟨0x40⟩, .range ⟨0x5B⟩ ⟨0x5E⟩, .range ⟨0x60⟩ ⟨0x60⟩,
      .range ⟨0x7B⟩ ⟨0x10FFFF⟩]
  | notDigit => [.range ⟨0⟩ ⟨0x2F⟩, .range ⟨0x3A⟩ ⟨0x10FFFF⟩]
  | notSpace => [.range ⟨0⟩ ⟨0x08⟩, .range ⟨0x0E⟩ ⟨0x1F⟩, .range ⟨0x21⟩ ⟨0x10FFFF⟩]
  | item => [item]

/-- How far the case of letters is ignored. -/
inductive Casing where
  | exact
  /-- Ignored for the letters of the basic Latin block. -/
  | latin
  /-- Ignored for all letters. -/
  | all
  deriving DecidableEq, Repr

/-- A text in the form in which it is compared. -/
def Casing.normal : Casing → Text → Text
  | exact, t => t
  | latin, t => t.toLowerLatin
  | all, t => t.flatMap CodePoint.lower

/-- A set of code points: those of some part, or those of none. -/
structure CharClass where
  items : List ClassItem
  negated : Bool := false
  deriving DecidableEq, Repr

namespace CharClass

/-- Whether a code point belongs to a class. -/
def holds (k : CharClass) (c : CodePoint) : Bool :=
  k.items.any (·.holds c) != k.negated

/-- The class of one code point. -/
def single (c : CodePoint) : CharClass := ⟨[.range c c], false⟩

/-- The class of all code points. -/
def anything : CharClass := ⟨[], true⟩

/-- The class of all code points but the line feed. -/
def notLineFeed : CharClass := ⟨[.range '\n' '\n'], true⟩

/-- Letters beyond the basic Latin block that count as a given small letter when case is
ignored. -/
def twins (c : CodePoint) : List ClassItem :=
  if c = 'i' then [.range ⟨0x130⟩ ⟨0x131⟩]
  else if c = 'k' then [.range ⟨0x212A⟩ ⟨0x212A⟩]
  else if c = 's' then [.range ⟨0x17F⟩ ⟨0x17F⟩]
  else []

/-- The part of a range of Latin letters in the other case, moved by a distance. -/
def otherCase (first last low high : Nat) (move : Nat → Nat) : List ClassItem :=
  let a := max first low
  let b := min last high
  if a ≤ b then [.range ⟨move a⟩ ⟨move b⟩] else []

/-- A range together with the same letters of the basic Latin block in the other case. -/
def foldLatin (first last : CodePoint) : List ClassItem :=
  [.range first last] ++
    otherCase first.val last.val 0x41 0x5A (· + 0x20) ++
    otherCase first.val last.val 0x61 0x7A (· - 0x20)

/-- The code points that differ from a single one in case only, if it lies beyond the basic Latin
block. -/
def otherForms (c : CodePoint) : List ClassItem :=
  if c.val < 0x80 then []
  else
    let forms := [c.lower, c.upper, c.lower.flatMap CodePoint.upper, c.upper.flatMap CodePoint.lower]
    forms.filterMap fun form =>
      match form with
      | [d] => if d = c then none else some (.range d d)
      | _ => none

/-- A part of a class together with the same letters in the other case. -/
def foldItem : ClassItem → List ClassItem
  | .range first last =>
    let small (c : CodePoint) : Bool :=
      (first.val ≤ c.val && c.val ≤ last.val) ||
        (first.val ≤ c.val - 0x20 && c.val - 0x20 ≤ last.val)
    foldLatin first last ++
      (["i", "k", "s"].flatMap fun t =>
        (Text.ofString t).flatMap fun c => if small c then twins c else []) ++
      (if first = last then otherForms first else [])
  | item => [item]

/-- The class with case ignored. -/
def ignoreCase (k : CharClass) : CharClass :=
  ⟨k.items.flatMap foldItem, k.negated⟩

/-- The class with the case of the letters of the basic Latin block ignored. -/
def ignoreLatinCase (k : CharClass) : CharClass :=
  ⟨k.items.flatMap fun item =>
    match item with
    | .range first last => foldLatin first last
    | item => [item], k.negated⟩

/-- The class with case ignored as far as asked for. -/
def withCasing (casing : Casing) (k : CharClass) : CharClass :=
  match casing with
  | .exact => k
  | .latin => k.ignoreLatinCase
  | .all => k.ignoreCase

end CharClass

/-- A pattern of text. -/
inductive Pattern where
  | empty
  | one (k : CharClass)
  | seq (p q : Pattern)
  /-- The first pattern, or, if that leads nowhere, the second. -/
  | alt (p q : Pattern)
  /-- The pattern at least `least` and at most `most` times, as often as possible if greedy. -/
  | repeat (greedy : Bool) (least : Nat) (most : Option Nat) (p : Pattern)
  | group (number : Nat) (p : Pattern)
  | textStart
  | textEnd
  /-- The end of the text, or the place before a line feed that ends it. -/
  | lastLineEnd
  /-- A place between a word character and another, or the lack of one; neither is found in an
  empty text. -/
  | wordEdge (wanted : Bool)
  /-- The first way to match and no other. -/
  | atomic (p : Pattern)
  /-- A place from which the pattern matches, or does not match, so many code points back. -/
  | look (wanted : Bool) (back : Nat) (p : Pattern)
  /-- What a group matched, once more. -/
  | same (casing : Casing) (number : Nat)
  /-- One pattern if a group took part in the match so far, another if it did not. -/
  | ifGroup (number : Nat) (p q : Pattern)
  deriving DecidableEq, Repr, Inhabited

namespace Pattern

/-- Patterns one after the other. -/
def all : List Pattern → Pattern
  | [] => empty
  | [p] => p
  | p :: rest => seq p (all rest)

/-- The first of some patterns that leads anywhere. -/
def choice : List Pattern → Pattern
  | [] => empty
  | [p] => p
  | p :: rest => alt p (choice rest)

/-- A text as it stands. -/
def literal (t : Text) : Pattern :=
  all (t.map fun c => one (.single c))

/-- A text with case ignored. -/
def literalAnyCase (t : Text) : Pattern :=
  all (t.map fun c => one (CharClass.single c).ignoreCase)

/-- A code point of some parts. -/
def anyOf (items : List ClassItem) : Pattern :=
  one ⟨items, false⟩

/-- A code point of none of some parts. -/
def noneOf (items : List ClassItem) : Pattern :=
  one ⟨items, true⟩

/-- Any number of times, as often as possible. -/
def many (p : Pattern) : Pattern := .repeat true 0 none p

/-- Once or more, as often as possible. -/
def oneOrMore (p : Pattern) : Pattern := .repeat true 1 none p

/-- At least so many times, as often as possible. -/
def atLeast (n : Nat) (p : Pattern) : Pattern := .repeat true n none p

/-- Exactly so many times. -/
def times (n : Nat) (p : Pattern) : Pattern := .repeat true n (some n) p

/-- Once or not at all, once if possible. -/
def optional (p : Pattern) : Pattern := .repeat true 0 (some 1) p

/-- A place before a code point of a class, or before none. -/
def nextIn (wanted : Bool) (k : CharClass) : Pattern := look wanted 0 (one k)

/-- A place after a code point of a class, or after none. -/
def lastIn (wanted : Bool) (k : CharClass) : Pattern := look wanted 1 (one k)

/-- The start of a line. -/
def lineStart : Pattern := alt textStart (lastIn true (.single '\n'))

/-- The end of a line. -/
def lineEnd : Pattern := alt textEnd (nextIn true (.single '\n'))

/-- A place between a word character of the basic Latin block and something else, or the lack of
one. -/
def latinWordEdge (wanted : Bool) : Pattern :=
  let k : CharClass := ⟨ClassItem.word.latin, false⟩
  if wanted then
    alt (seq (lastIn true k) (nextIn false k)) (seq (lastIn false k) (nextIn true k))
  else
    seq (alt (lastIn true .anything) (nextIn true .anything))
      (alt (seq (lastIn true k) (nextIn true k)) (seq (lastIn false k) (nextIn false k)))

end Pattern

end LintMend
