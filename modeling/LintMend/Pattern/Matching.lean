/-
LintMend.Pattern.Matching — where patterns match, and replacing what they match.

Of the ways in which a pattern can match at a place, the preferred one that the rest of the
pattern can go along with is taken: the first of a choice before the second, more repetitions
before fewer, or fewer before more. The search takes the first place from the left where there
is a match, and goes on after it; a match of nothing is not taken twice at one place.

  `Pattern.run`    — match at a place, with what is to follow
  `Pattern.pieces` — a text cut into matches and what stands between them
  `matchesSomewhere`, `replace` — search and replacement
-/
import LintMend.Pattern.Basic

namespace LintMend

/-- A place in a text: the code points before it, the nearest first, those from it on, and the
groups matched so far. -/
structure Spot where
  before : Text
  rest : Text
  groups : List (Nat × Text) := []
  deriving DecidableEq, Repr

namespace Spot

/-- Whether a word character stands on exactly one side. -/
def atWordEdge (s : Spot) : Bool :=
  (s.before.head?.map CodePoint.isWord).getD false != (s.rest.head?.map CodePoint.isWord).getD false

/-- Whether the whole text is empty. -/
def inEmptyText (s : Spot) : Bool :=
  s.before.isEmpty && s.rest.isEmpty

/-- The text between a place and a later one. -/
def textTo (s later : Spot) : Text :=
  s.rest.take (s.rest.length - later.rest.length)

/-- The place so many code points back, if there is one. -/
def back? (s : Spot) (count : Nat) : Option Spot :=
  if count ≤ s.before.length then
    some { s with before := s.before.drop count, rest := (s.before.take count).reverse ++ s.rest }
  else none

/-- The place so many code points further on. -/
def advance (s : Spot) (count : Nat) : Spot :=
  { s with before := (s.rest.take count).reverse ++ s.before, rest := s.rest.drop count }

/-- What a group matched so far. -/
def group? (s : Spot) (number : Nat) : Option Text :=
  (s.groups.find? (·.1 == number)).map (·.2)

/-- Remember what a group matched. -/
def remember (number : Nat) (s later : Spot) : Spot :=
  { later with groups := (number, s.textTo later) :: later.groups.filter (·.1 != number) }

end Spot

namespace Pattern

/-- Repeat a step. After an optional repetition that moves nowhere there is no further one. -/
def runRepeat {α : Type} (step : Spot → (Spot → Option α) → Option α) (greedy : Bool) :
    (fuel least : Nat) → (most : Option Nat) → Spot → (Spot → Option α) → Option α
  | 0, _, _, s, k => k s
  | fuel + 1, least + 1, most, s, k =>
    step s fun s' => runRepeat step greedy fuel least (most.map (· - 1)) s' k
  | fuel + 1, 0, most, s, k =>
    if most = some 0 then k s
    else
      let again (_ : Unit) : Option α := step s fun s' =>
        if s'.rest.length = s.rest.length then k s'
        else runRepeat step greedy fuel 0 (most.map (· - 1)) s' k
      if greedy then (again ()).orElse fun _ => k s
      else (k s).orElse again

/-- Match a pattern at a place; `k` says whether the place after the match will do. -/
def run : Pattern → {α : Type} → Spot → (Spot → Option α) → Option α
  | empty, _, s, k => k s
  | one c, _, s, k =>
    match s.rest with
    | [] => none
    | d :: rest => if c.holds d then k { s with before := d :: s.before, rest } else none
  | seq p q, _, s, k => p.run s fun s' => q.run s' k
  | alt p q, _, s, k => (p.run s k).orElse fun _ => q.run s k
  | .repeat greedy least most p, _, s, k =>
    runRepeat p.run greedy (s.rest.length + least + 1) least most s k
  | group number p, _, s, k => p.run s fun s' => k (s.remember number s')
  | textStart, _, s, k => if s.before.isEmpty then k s else none
  | textEnd, _, s, k => if s.rest.isEmpty then k s else none
  | lastLineEnd, _, s, k => if s.rest.isEmpty || s.rest == ("\n" : Text) then k s else none
  | wordEdge wanted, _, s, k =>
    if !s.inEmptyText && s.atWordEdge == wanted then k s else none
  | atomic p, _, s, k => (p.run s some).bind k
  | look wanted back p, _, s, k =>
    match (s.back? back).bind fun start => p.run start some with
    | some s' => if wanted then k { s with groups := s'.groups } else none
    | none => if wanted then none else k s
  | same casing number, _, s, k =>
    match s.group? number with
    | none => none
    | some t =>
      if casing.normal (s.rest.take t.length) == casing.normal t then k (s.advance t.length)
      else none
  | ifGroup number p q, _, s, k =>
    if (s.group? number).isSome then p.run s k else q.run s k

/-- The place after the preferred match at a place, which may be asked to move on. -/
def matchAt? (p : Pattern) (mustMove : Bool) (s : Spot) : Option Spot :=
  p.run { s with groups := [] } fun s' =>
    if mustMove && s'.rest.length == s.rest.length then none else some s'

/-- A part of a text that is searched: a code point outside all matches, or a match with its
groups. -/
inductive Piece where
  | kept (c : CodePoint)
  | found (t : Text) (groups : List (Nat × Text))
  deriving DecidableEq, Repr

/-- Cut a text into matches and the code points between them, from a place on. -/
def piecesFrom (p : Pattern) (mustMove : Bool) (s : Spot) : List Piece :=
  match p.matchAt? mustMove s with
  | some s' =>
    let piece := Piece.found (s.textTo s') s'.groups
    if s'.rest.length < s.rest.length then
      piece :: piecesFrom p false { s' with groups := [] }
    else
      match mustMove with
      | true => [piece]
      | false => piece :: piecesFrom p true s
  | none =>
    match _h : s.rest with
    | [] => []
    | c :: rest => .kept c :: piecesFrom p false { s with before := c :: s.before, rest }
  termination_by (s.rest.length, if mustMove then 0 else 1)
  decreasing_by
    · exact Prod.Lex.left _ _ (by assumption)
    · exact Prod.Lex.right _ (by simp)
    · exact Prod.Lex.left _ _ (by simp [_h])

/-- Cut a text into the matches of a pattern and the code points between them. -/
def pieces (p : Pattern) (t : Text) : List Piece :=
  p.piecesFrom false ⟨[], t, []⟩

/-- Whether a pattern matches from some place on. -/
def matchesFrom (p : Pattern) (before : Text) : (rest : Text) → Bool
  | [] => (p.matchAt? false ⟨before, [], []⟩).isSome
  | c :: rest =>
    (p.matchAt? false ⟨before, c :: rest, []⟩).isSome || matchesFrom p (c :: before) rest

/-- Whether a pattern matches somewhere in a text. -/
def matchesSomewhere (p : Pattern) (t : Text) : Bool :=
  p.matchesFrom [] t

/-- The text with every match replaced by what a function makes of it. -/
def replace (p : Pattern) (replacement : Text → List (Nat × Text) → Text) (t : Text) : Text :=
  (p.pieces t).flatMap fun piece =>
    match piece with
    | .kept c => [c]
    | .found t groups => replacement t groups

end Pattern

end LintMend
