/-
LintMend.Pattern.Manner — the marks of written patterns, and what they change.

Marks are letters: `i` ignores case, `m` finds line ends within the text, `s` lets the point match
line feeds, `x` allows blanks and remarks, `a` keeps word characters, digits, blanks and case to
the basic Latin block, and `u` does not. They hold for the whole pattern or, with a colon after
them, for one group, for which a hyphen also takes marks away.

  `Manner`    — how a pattern is read
  `Marks`     — what a group of marks says
  `readMarks` — reading one
-/
import LintMend.Pattern.Basic
import LintMend.Pattern.Token
import LintMend.Text.Word

namespace LintMend.Pattern

/-- How a pattern is read. -/
structure Manner where
  anyCase : Bool := false
  latin : Bool := false
  everyLine : Bool := false
  pointAll : Bool := false
  spaced : Bool := false
  deriving DecidableEq, Repr

namespace Manner

/-- How far case is ignored. -/
def casing (m : Manner) : Casing :=
  if !m.anyCase then .exact else if m.latin then .latin else .all

/-- Set or clear what one mark stands for. -/
def set (on : Bool) (m : Manner) (mark : CodePoint) : Manner :=
  if mark = 'i' then { m with anyCase := on }
  else if mark = 'a' then { m with latin := on }
  else if mark = 'u' then { m with latin := !on }
  else if mark = 'm' then { m with everyLine := on }
  else if mark = 's' then { m with pointAll := on }
  else if mark = 'x' then { m with spaced := on }
  else m

/-- The manner after marks are set and others cleared. -/
def change (m : Manner) (added removed : Text) : Manner :=
  removed.foldl (set false) (added.foldl (set true) m)

/-- A class read in a manner. -/
def classOf (m : Manner) (items : List ClassItem) (negated : Bool) : CharClass :=
  CharClass.withCasing m.casing ⟨if m.latin then items.flatMap ClassItem.latin else items, negated⟩

end Manner

/-- What a group of marks says. -/
inductive Marks where
  /-- For the whole pattern. -/
  | whole (added : Text)
  /-- For the group that they open. -/
  | inside (added removed : Text)
  deriving DecidableEq, Repr

/-- A letter that is a mark. -/
def isMark (c : CodePoint) : Bool :=
  (Text.ofString "aiLmstux").has c

/-- A mark that says which letters count as letters. -/
def isScriptMark (c : CodePoint) : Bool :=
  (Text.ofString "aLu").has c

/-- The mark that only a whole pattern can have. -/
def wholeMark : CodePoint := 't'

/-- The fault of a token where a mark, or what ends the marks, is missing. -/
def missingMark (t what : Text) (ts : Tokens) : Fault :=
  let isLetter := match t with
    | [c] => c.isWord && !c.isDigit && !(c == '_')
    | _ => false
  .here (if isLetter then "unknown flag" else "missing " ++ what) (ts.position - t.length)

/-- The next token as a mark or, if it is one of some others, as that. -/
def nextMark (others : Text) (what : Text) (ts : Tokens) : Except Fault (CodePoint × Tokens) := do
  match ts.next? with
  | none => throw (.here ("missing " ++ what) ts.position)
  | some t =>
    let rest ← ts.drop
    match t with
    | [c] =>
      if isMark c || others.has c then return (c, rest) else throw (missingMark t what rest)
    | _ => throw (missingMark t what rest)

/-- Marks to be set, the first of them given, and the token after them. -/
def readAdded : (fuel : Nat) → CodePoint → Text → Tokens → Except Fault (Text × CodePoint × Tokens)
  | 0, _, _, ts => .error (.here "missing -, : or )" ts.position)
  | fuel + 1, mark, done, ts => do
    if mark = 'L' then
      throw (.here "bad inline flags: cannot use 'L' flag with a str pattern" ts.position)
    let done := done ++ [mark]
    if isScriptMark mark && done.any fun c => isScriptMark c && c != mark then
      throw (.here "bad inline flags: flags 'a', 'u' and 'L' are incompatible" ts.position)
    let (c, rest) ← nextMark ")-:" "-, : or )" ts
    if isMark c then readAdded fuel c done rest else return (done, c, rest)

/-- Marks to be cleared, the first of them given, up to the colon. -/
def readRemoved : (fuel : Nat) → CodePoint → Text → Tokens → Except Fault (Text × Tokens)
  | 0, _, _, ts => .error (.here "missing :" ts.position)
  | fuel + 1, mark, done, ts => do
    if isScriptMark mark then
      throw (.here "bad inline flags: cannot turn off flags 'a', 'u' and 'L'" ts.position)
    let done := done ++ [mark]
    let (c, rest) ← nextMark ":" ":" ts
    if isMark c then readRemoved fuel c done rest else return (done, rest)

/-- A group of marks, given its first letter or hyphen. -/
def readMarks (first : CodePoint) (ts : Tokens) : Except Fault (Marks × Tokens) := do
  let fuel := ts.left.length + 1
  let (added, stop, rest) ←
    if first = '-' then pure ([], first, ts) else readAdded fuel first [] ts
  if stop = ')' then return (.whole added, rest)
  if Text.has added wholeMark then
    throw (.here "bad inline flags: cannot turn on global flag" (rest.position - 1))
  let (removed, rest) ←
    if stop = '-' then do
      let (c, rest) ← nextMark [] "flag" rest
      readRemoved fuel c [] rest
    else pure ([], rest)
  if Text.has removed wholeMark then
    throw (.here "bad inline flags: cannot turn off global flag" (rest.position - 1))
  if added.any (Text.has removed) then
    throw (.here "bad inline flags: flag turned on and off" (rest.position - 1))
  return (.inside added removed, rest)

end LintMend.Pattern
