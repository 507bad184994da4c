/-
LintMend.Pattern.Width — how many code points a pattern can match.

  `Width`         — the least number, and the greatest if there is one
  `Pattern.width` — the width of a pattern, given the widths of the groups
-/
import LintMend.Pattern.Basic

namespace LintMend

/-- The least number of code points, and the greatest if there is one. -/
structure Width where
  least : Nat
  most : Option Nat
  deriving DecidableEq, Repr

namespace Width

/-- The width of nothing. -/
def zero : Width := ⟨0, some 0⟩

/-- The width of two things one after the other. -/
def add (v w : Width) : Width :=
  ⟨v.least + w.least, v.most.bind fun m => w.most.map (m + ·)⟩

/-- The width of one thing or another. -/
def either (v w : Width) : Width :=
  ⟨min v.least w.least, v.most.bind fun m => w.most.map (max m ·)⟩

/-- The width of a thing repeated. -/
def times (least : Nat) (most : Option Nat) (w : Width) : Width :=
  let greatest : Option Nat :=
    if w.most = some 0 ∨ most = some 0 then some 0
    else most.bind fun m => w.most.map (m * ·)
  ⟨least * w.least, greatest⟩

/-- The number of code points, if there is only one. -/
def fixed? (w : Width) : Option Nat :=
  if w.most = some w.least then some w.least else none

end Width

/-- The width of a pattern. -/
def Pattern.width (groups : Nat → Width) : Pattern → Width
  | empty | textStart | textEnd | lastLineEnd | wordEdge _ | look .. => .zero
  | one _ => ⟨1, some 1⟩
  | seq p q => (p.width groups).add (q.width groups)
  | alt p q => (p.width groups).either (q.width groups)
  | .repeat _ least most p => (p.width groups).times least most
  | group _ p => p.width groups
  | atomic p => p.width groups
  | same _ number => groups number
  | ifGroup _ p q => (p.width groups).either (q.width groups)

end LintMend
