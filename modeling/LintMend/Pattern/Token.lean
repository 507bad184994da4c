/-
LintMend.Pattern.Token — the tokens of written patterns and of replacement texts.

A backslash and the code point after it are one token, every other code point is one by itself.
A backslash at the very end is a fault, which shows when the token before it is taken.

  `Pattern.Fault`  — what is wrong, and where
  `Pattern.Tokens` — the tokens that are left, with their positions
  `Tokens.takeWhile`, `Tokens.readName` — runs of tokens
-/
import LintMend.Text.Basic

namespace LintMend.Pattern

/-- The kinds of faults. -/
inductive FaultKind where
  /-- It is not well written. -/
  | written
  /-- Its marks contradict each other. -/
  | marks
  /-- A number in it is too large. -/
  | tooLarge
  deriving DecidableEq, Repr

/-- What is wrong with a written pattern or replacement. -/
structure Fault where
  reason : Text
  /-- Where, unless the place does not matter. -/
  position : Option Nat
  kind : FaultKind := .written
  deriving DecidableEq, Repr

namespace Fault

/-- A fault at a position. -/
def here (reason : Text) (position : Nat) : Fault := ⟨reason, some position, .written⟩

/-- A fault of the whole. -/
def overall (reason : Text) : Fault := ⟨reason, none, .written⟩

/-- The fault in words, with line and column if the source has several lines. -/
def message (source : Text) (f : Fault) : Text :=
  match f.position with
  | none => f.reason
  | some n =>
    let head := f.reason ++ " at position " ++ Text.ofNat n
    if source.has '\n' then
      let before := source.take n
      let column := (before.reverse.takeWhile (· != (⟨0x0A⟩ : CodePoint))).length + 1
      head ++ " (line " ++ Text.ofNat (before.count ⟨0x0A⟩ + 1) ++ ", column " ++
        Text.ofNat column ++ ")"
    else head

end Fault

/-- One token and its position. -/
structure Token where
  position : Nat
  text : Text
  deriving DecidableEq, Repr

/-- The tokens that are left, and the position of the end. -/
structure Tokens where
  left : List Token
  stop : Nat
  deriving Repr

/-- The tokens of a text from a position on. -/
def tokensFrom (position : Nat) : Text → List Token
  | [] => []
  | [c] => [⟨position, [c]⟩]
  | c :: d :: rest =>
    if c = '\\' then ⟨position, [c, d]⟩ :: tokensFrom (position + 2) rest
    else ⟨position, [c]⟩ :: tokensFrom (position + 1) (d :: rest)

namespace Tokens

/-- The fault of a backslash at the end, if that is the next token. -/
def brokenEnd? (ts : Tokens) : Option Fault :=
  match ts.left with
  | ⟨position, t⟩ :: _ =>
    if t = "\\" then some (.here "bad escape (end of pattern)" position) else none
  | [] => none

/-- All tokens of a text. -/
def ofText (t : Text) : Except Fault Tokens :=
  let ts : Tokens := ⟨tokensFrom 0 t, t.length⟩
  match ts.brokenEnd? with
  | some fault => .error fault
  | none => .ok ts

/-- The position of the next token. -/
def position (ts : Tokens) : Nat :=
  match ts.left with
  | token :: _ => token.position
  | [] => ts.stop

/-- The next token as text. -/
def next? (ts : Tokens) : Option Text :=
  ts.left.head?.map (·.text)

/-- The next token as a single code point. -/
def nextChar? (ts : Tokens) : Option CodePoint :=
  match ts.next? with
  | some [c] => some c
  | _ => none

/-- Go past the next token. -/
def drop (ts : Tokens) : Except Fault Tokens :=
  let rest : Tokens := ⟨ts.left.drop 1, ts.stop⟩
  match rest.brokenEnd? with
  | some fault => .error fault
  | none => .ok rest

/-- Go past the next token if it is a given code point, and say whether it was. -/
def skip (c : CodePoint) (ts : Tokens) : Except Fault (Bool × Tokens) :=
  if ts.nextChar? == some c then ts.drop.map (true, ·) else .ok (false, ts)

/-- Go past the next tokens, at most so many, that are code points of a kind, and return them. -/
def takeWhile (wanted : CodePoint → Bool) : (most : Nat) → Tokens → Except Fault (Text × Tokens)
  | 0, ts => .ok ([], ts)
  | most + 1, ts =>
    match ts.nextChar? with
    | none => .ok ([], ts)
    | some c =>
      if wanted c then do
        let (more, rest) ← takeWhile wanted most (← ts.drop)
        return (c :: more, rest)
      else .ok ([], ts)

/-- The tokens up to a closing token, as one name, after those already taken. -/
def readNameFrom (closing what : Text) : (fuel : Nat) → Tokens → Text → Except Fault (Text × Tokens)
  | 0, ts, _ => .error (.here ("missing " ++ what) ts.position)
  | fuel + 1, ts, name =>
    match ts.next? with
    | none =>
      if name.isEmpty then .error (.here ("missing " ++ what) ts.position)
      else
        .error (.here ("missing " ++ closing ++ ", unterminated name") (ts.position - name.length))
    | some t => do
      let rest ← ts.drop
      if t = closing then
        if name.isEmpty then throw (.here ("missing " ++ what) (rest.position - 1))
        else return (name, rest)
      else readNameFrom closing what fuel rest (name ++ t)

/-- The tokens up to a closing token, as one name. -/
def readName (closing what : Text) (ts : Tokens) : Except Fault (Text × Tokens) :=
  readNameFrom closing what (ts.left.length + 1) ts []

end Tokens

/-- A letter of the basic Latin block. -/
def isLatinLetter (c : CodePoint) : Bool :=
  (0x41 ≤ c.val && c.val ≤ 0x5A) || (0x61 ≤ c.val && c.val ≤ 0x7A)

/-- A digit of the basic Latin block. -/
def isLatinDigit (c : CodePoint) : Bool :=
  0x30 ≤ c.val && c.val ≤ 0x39

/-- A digit below eight. -/
def isOctalDigit (c : CodePoint) : Bool :=
  0x30 ≤ c.val && c.val ≤ 0x37

/-- The number that digits of a base below ten denote. -/
def numberOf (base : Nat) (digits : Text) : Nat :=
  digits.foldl (fun n c => base * n + (c.val - 0x30)) 0

end LintMend.Pattern
