/-
LintMend.Pattern.Bracket — classes in brackets.

Between the brackets stand code points, ranges with a hyphen, and class escapes; a circumflex in
front takes the code points that are none of these. A closing bracket in front, and a hyphen at
an end, stand for themselves.

  `readBracket` — reading one, after its opening bracket
-/
import LintMend.Pattern.Escape

namespace LintMend.Pattern

/-- The fault of a class that is not closed. -/
def openBracket (start : Nat) : Fault :=
  .here "unterminated character set" start

/-- One member of a class: a part, or a code point that can begin or end a range. -/
def readMember (opening : Nat) (ts : Tokens) :
    Except Fault (Text × (ClassItem ⊕ CodePoint) × Tokens) := do
  let start := ts.position
  match ts.next? with
  | some [c] => return ([c], .inr c, ← ts.drop)
  | some [b, c] =>
    let (member, rest) ← readMemberEscape start c (← ts.drop)
    return ([b, c], member, rest)
  | _ => throw (openBracket opening)

/-- A member that is no end of a range. -/
def memberItem : ClassItem ⊕ CodePoint → ClassItem
  | .inl item => item
  | .inr c => .range c c

/-- The range between two members, if they are code points in order. -/
def rangeOf? : ClassItem ⊕ CodePoint → ClassItem ⊕ CodePoint → Option ClassItem
  | .inr a, .inr b => if a.val ≤ b.val then some (.range a b) else none
  | _, _ => none

/-- The members up to the closing bracket, after those already read. -/
def readMembers (opening : Nat) :
    (fuel : Nat) → Tokens → List ClassItem → Except Fault (List ClassItem × Tokens)
  | 0, _, _ => .error (openBracket opening)
  | fuel + 1, ts, done => do
    if ts.next? == some "]" && !done.isEmpty then return (done.reverse, ← ts.drop)
    let (t, member, rest) ← readMember opening ts
    let (hyphen, rest) ← rest.skip '-'
    if !hyphen then readMembers opening fuel rest (memberItem member :: done)
    else if rest.next? == some "]" then
      return ((.range '-' '-' :: memberItem member :: done).reverse, ← rest.drop)
    else
      let (u, last, rest) ← readMember opening rest
      match rangeOf? member last with
      | some range => readMembers opening fuel rest (range :: done)
      | none =>
        throw (.here ("bad character range " ++ t ++ "-" ++ u)
          (rest.position - (t.length + 1 + u.length)))

/-- A class after its opening bracket: its parts, and whether their code points are left out. -/
def readBracket (opening : Nat) (ts : Tokens) :
    Except Fault ((List ClassItem × Bool) × Tokens) := do
  let (negated, inside) ← ts.skip '^'
  let (items, rest) ← readMembers opening (inside.left.length + 1) inside []
  return ((items, negated), rest)

end LintMend.Pattern
