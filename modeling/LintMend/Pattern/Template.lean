/-
LintMend.Pattern.Template — replacement texts.

A replacement is text in which a backslash calls for a group of the match by its number, or for
a control character. It is checked against the number of groups of the pattern before anything
is replaced.

  `Template.read` — check a replacement text
  `Template.fill` — the replacement of one match
-/
import LintMend.Pattern.Escape
import LintMend.Text.Integer

namespace LintMend

/-- A part of a replacement. -/
inductive TemplatePart where
  | char (c : CodePoint)
  | group (number : Nat)
  deriving DecidableEq, Repr

/-- A replacement text. -/
abbrev Template := List TemplatePart

namespace Template

open Pattern

/-- The call of a group, if the pattern has it. -/
def callGroup (groups number position : Nat) : Except Fault TemplatePart :=
  if number ≤ groups then .ok (.group number)
  else .error (.here ("invalid group reference " ++ Text.ofNat number) position)

/-- The number in a call by name, whose place ends at the next token. -/
def namedGroup (groups : Nat) (name : Text) (ts : Tokens) : Except Fault TemplatePart :=
  let place := ts.position - (name.length + 1)
  if isGroupName name then .error (.overall ("unknown group name " ++ name.quoted))
  else
    match name.int? with
    | some (.ofNat n) => callGroup groups n place
    | _ => .error (.here ("bad character in group name " ++ name.quoted) place)

/-- The parts of a replacement from the next token on. -/
def readParts (groups : Nat) : (fuel : Nat) → Tokens → Except Fault Template
  | 0, _ => .ok []
  | fuel + 1, ts =>
    match ts.next? with
    | none => .ok []
    | some t => do
      let rest ← ts.drop
      match t with
      | [_, c] =>
        if c = 'g' then
          let (opened, inside) ← rest.skip '<'
          if !opened then throw (.here "missing <" rest.position)
          let (name, after) ← inside.readName ">" "group name"
          let part ← namedGroup groups name after
          return part :: (← readParts groups fuel after)
        else if c = '0' then
          let (d, after) ← readZero rest
          return .char d :: (← readParts groups fuel after)
        else if isLatinDigit c then
          let start := rest.position - 2
          match ← readCall start c rest with
          | (.char d, after) => return .char d :: (← readParts groups fuel after)
          | (.group n, after) =>
            return (← callGroup groups n (start + 1)) :: (← readParts groups fuel after)
        else
          match controlEscape? c with
          | some d => return .char d :: (← readParts groups fuel rest)
          | none =>
            if isLatinLetter c then throw (.here ("bad escape " ++ t) (rest.position - 2))
            return .char '\\' :: .char c :: (← readParts groups fuel rest)
      | _ => return t.map TemplatePart.char ++ (← readParts groups fuel rest)

/-- Read a replacement text for a pattern with a number of groups. -/
def read (groups : Nat) (t : Text) : Except Fault Template := do
  readParts groups (t.length + 1) (← Tokens.ofText t)

/-- The replacement of a match; a group that took no part is empty. -/
def fill (template : Template) (whole : Text) (groups : List (Nat × Text)) : Text :=
  template.flatMap fun part =>
    match part with
    | .char c => [c]
    | .group 0 => whole
    | .group n => ((groups.find? (·.1 == n)).map (·.2)).getD []

end Template

end LintMend
