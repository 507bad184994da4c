/-
LintMend.Pattern.Opening — what an opening parenthesis opens.

Without a question mark after it, a parenthesis opens a group. The question mark is followed by a
letter or sign that says what is opened instead.

  `Opening`     — what can be opened
  `readOpening` — reading it, up to the first token inside
-/
import LintMend.Pattern.Escape
import LintMend.Pattern.Manner

namespace LintMend.Pattern

/-- What a parenthesis opens. -/
inductive Opening where
  | group (name : Option Text)
  /-- What is not remembered, read with marks set or cleared. -/
  | plain (added removed : Text)
  | atomic
  /-- What is looked for from here on, or right before. -/
  | look (wanted behind : Bool)
  /-- What a named group matched. -/
  | same (name : Text)
  /-- A choice by whether a group took part. -/
  | test (group : Text)
  /-- Marks for the whole pattern. -/
  | marks (added : Text)
  | remark
  deriving DecidableEq, Repr

/-- The next token, which must not be missing. -/
def nextToken (ts : Tokens) : Except Fault (Text × Tokens) := do
  match ts.next? with
  | none => throw (.here "unexpected end of pattern" ts.position)
  | some t => return (t, ← ts.drop)

/-- The fault of a sign that opens nothing. -/
def unknownOpening (before t : Text) (ts : Tokens) : Fault :=
  .here ("unknown extension ?" ++ before ++ t) (ts.position - (before.length + t.length + 1))

/-- A name for a group, up to a closing token. -/
def readGroupName (closing : Text) (ts : Tokens) : Except Fault (Text × Tokens) := do
  let (name, rest) ← ts.readName closing "group name"
  if isGroupName name then return (name, rest)
  throw (.here ("bad character in group name " ++ name.quoted)
    (rest.position - (name.length + 1)))

/-- The tokens after a remark. -/
def skipRemark (start : Nat) : (fuel : Nat) → Tokens → Except Fault Tokens
  | 0, _ => .error (.here "missing ), unterminated comment" start)
  | fuel + 1, ts =>
    match ts.next? with
    | none => .error (.here "missing ), unterminated comment" start)
    | some t => do
      let rest ← ts.drop
      if t = ")" then return rest else skipRemark start fuel rest

/-- What opens after the question mark of a parenthesis. -/
def readExtension (start : Nat) (ts : Tokens) : Except Fault (Opening × Tokens) := do
  let (t, rest) ← nextToken ts
  if t = ":" then return (.plain [] [], rest)
  if t = ">" then return (.atomic, rest)
  if t = "=" then return (.look true false, rest)
  if t = "!" then return (.look false false, rest)
  if t = "#" then return (.remark, ← skipRemark start (rest.left.length + 1) rest)
  if t = "(" then
    let (name, inside) ← rest.readName ")" "group name"
    return (.test name, inside)
  if t = "<" then
    let (u, inside) ← nextToken rest
    if u = "=" then return (.look true true, inside)
    if u = "!" then return (.look false true, inside)
    throw (unknownOpening "<" u inside)
  if t = "P" then
    let (u, inside) ← nextToken rest
    if u = "<" then
      let (name, inside) ← readGroupName ">" inside
      return (.group (some name), inside)
    if u = "=" then
      let (name, inside) ← readGroupName ")" inside
      return (.same name, inside)
    throw (unknownOpening "P" u inside)
  match t with
  | [c] =>
    if isMark c || c = '-' then
      match ← readMarks c rest with
      | (.whole added, rest) => return (.marks added, rest)
      | (.inside added removed, rest) => return (.plain added removed, rest)
    else throw (unknownOpening [] t rest)
  | _ => throw (unknownOpening [] t rest)

/-- What a parenthesis at a place opens. -/
def readOpening (start : Nat) (ts : Tokens) : Except Fault (Opening × Tokens) := do
  let (extended, rest) ← ts.skip '?'
  if extended then readExtension start rest else return (.group none, rest)

end LintMend.Pattern
