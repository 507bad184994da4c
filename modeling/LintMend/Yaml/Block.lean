/-
LintMend.Yaml.Block — scalars that are blocks of lines.

A block starts after a bar or an angle bracket, to which an indentation and a mark for the end
may be added. Its indentation is that of its first line that is not empty. In a folded block the
end of a line counts as a space, unless a line next to it starts with a blank.

  `Yaml.block` — a block scalar from its mark on
-/
import LintMend.Yaml.Cursor

namespace LintMend.Yaml

/-- What a block keeps of the line ends after its last line. -/
inductive Chomping where
  | strip
  | clip
  | keep
  deriving DecidableEq, Repr

/-- The marks after the start of a block: its indentation relative to what is around it, and
what it keeps at its end. -/
structure BlockHeader where
  increment : Option Nat := none
  chomping : Chomping := .clip

/-- A mark for the end of a block. -/
def chompingMark? (c : Cursor) : Option Chomping :=
  if c.sees '+' then some .keep else if c.sees '-' then some .strip else none

/-- A mark for the indentation of a block. -/
def incrementMark? (c : Cursor) : Option Nat :=
  match c.rest with
  | d :: _ => if 0x30 ≤ d.val ∧ d.val ≤ 0x39 then some (d.val - 0x30) else none
  | [] => none

/-- What is being read in a block scalar. -/
def readingBlock : Text := "while scanning a block scalar"

/-- The indentation in the marks of a block, which must not be zero. -/
def takeIncrement (began : Spot) (c : Cursor) : Except Fault (Option Nat × Cursor) :=
  match incrementMark? c with
  | some 0 =>
    .error (c.fault readingBlock began
      "expected indentation indicator in the range 1-9, but found 0")
  | some n => .ok (some n, c.advance)
  | none => .ok (none, c)

/-- The marks after the start of a block, in either order. -/
def blockHeader (began : Spot) (c : Cursor) : Except Fault (BlockHeader × Cursor) := do
  let (chomping, c) := match chompingMark? c with
    | some k => (some k, c.advance)
    | none => (none, c)
  let (increment, c) ← takeIncrement began c
  let (chomping, c) := match chomping, increment, chompingMark? c with
    | none, some _, some k => (some k, c.advance)
    | _, _, _ => (chomping, c)
  if atSpace c.rest then return (⟨increment, chomping.getD .clip⟩, c)
  else throw (c.unlike readingBlock began "chomping or indentation indicators")

/-- Empty lines before the first line of a block, and the largest indentation among them. -/
def blockStart : (fuel : Nat) → Cursor → Text → Nat → Text × Nat × Cursor
  | 0, c, done, widest => (done, widest, c)
  | fuel + 1, c, done, widest =>
    match c.rest with
    | [] => (done, widest, c)
    | d :: _ =>
      if d.val == 0x20 then
        blockStart fuel c.advance done (max widest c.advance.column)
      else if isBreak d then
        let (t, next) := c.takeBreak
        blockStart fuel next (done ++ t) widest
      else (done, widest, c)

/-- Go past spaces up to a column. -/
def indentTo (indent : Nat) (c : Cursor) : Cursor :=
  c.advanceBy (min (c.rest.takeWhile (·.val == 0x20)).length (indent - c.column))

/-- Empty lines between two lines of a block, and the indentation of the next line. -/
def blockBreaks (indent : Nat) : (fuel : Nat) → Cursor → Text → Text × Cursor
  | 0, c, done => (done, c)
  | fuel + 1, c, done =>
    match c.takeBreak with
    | ([], _) => (done, c)
    | (t, next) => blockBreaks indent fuel (indentTo indent next) (done ++ t)

/-- Empty lines and indentation from a place on. -/
def blockGap (indent : Nat) (c : Cursor) : Text × Cursor :=
  blockBreaks indent (c.rest.length + 1) (indentTo indent c) []

/-- Whether a line of a block starts here. -/
def atBlockLine (indent : Nat) (c : Cursor) : Bool :=
  c.column == indent && !c.rest.isEmpty

/-- Whether a line starts with a blank. -/
def startsBlank (c : Cursor) : Bool :=
  (c.rest.head?.map isBlank).getD false

/-- The lines of a block, given the empty lines before: the text up to the end of the last line,
that line's end, and the empty lines after it. -/
def blockLines (folded : Bool) (indent : Nat) :
    (fuel : Nat) → Cursor → (done breaks : Text) → Text × Text × Text × Cursor
  | 0, c, done, breaks => (done, [], breaks, c)
  | fuel + 1, c, done, breaks =>
    if atBlockLine indent c then
      let (line, stop) := c.takeWhile (!isBreak ·)
      let (lineEnd, next) := stop.takeBreak
      let (after, next) := blockGap indent next
      let done := done ++ breaks ++ line
      if atBlockLine indent next then
        let joint : Text :=
          if folded && lineEnd == ("\n" : Text) && !startsBlank c && !startsBlank next then
            if after.isEmpty then " " else []
          else lineEnd
        blockLines folded indent fuel next (done ++ joint) after
      else (done, lineEnd, after, next)
    else (done, [], breaks, c)

/-- A block scalar within a given indentation: its text, and the place after it. -/
def block (folded : Bool) (around : Int) (c : Cursor) : Except Fault (Text × Cursor) := do
  let began := c.spot
  let (header, c) ← blockHeader began c.advance
  let c ← c.skipComment readingBlock began
  let least : Nat := (max 1 (around + 1)).toNat
  let (breaks, indent, c) : Text × Nat × Cursor :=
    match header.increment with
    | none =>
      let (breaks, widest, c) := blockStart c.rest.length c [] 0
      (breaks, max least widest, c)
    | some n =>
      let (breaks, c) := blockGap (least + n - 1) c
      (breaks, least + n - 1, c)
  let (lines, lineEnd, after, c) := blockLines folded indent (c.rest.length + 1) c [] breaks
  return match header.chomping with
    | .strip => (lines, c)
    | .clip => (lines ++ lineEnd, c)
    | .keep => (lines ++ lineEnd ++ after, c)

end LintMend.Yaml
