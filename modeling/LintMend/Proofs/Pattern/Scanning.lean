/-
LintMend.Proofs.Pattern.Scanning — how a text is cut into matches.

A local pattern whose words are not empty cuts a text in one pass from the left: where a word is
next, the preferred one is taken off, elsewhere one code point is kept. So the pieces can be had by
a plain recursion, and they are told by a relation that has forgotten the search: kept code points
are no start of a word, and what is found is what the search takes.

  `scan`, `pieces_eq_scan` — the cutting as a plain recursion
  `Takes`                  — what the search takes off before a rest
  `Cut`, `cut_pieces`      — a text and its pieces
-/
import LintMend.Proofs.Pattern.Language

namespace LintMend.Pattern

variable {p : Pattern} {w rest t : Text} {ps : List Piece}

/-! ## 1. One pass -/

/-- The pieces of a text from a place on, for patterns that match nothing empty. -/
def scan (p : Pattern) : (fuel : Nat) → Spot → List Piece
  | 0, _ => []
  | fuel + 1, s =>
    match p.matchAt? false s with
    | some s' => .found (s.textTo s') s'.groups :: scan p fuel { s' with groups := [] }
    | none =>
      match s.rest with
      | [] => []
      | c :: rest => .kept c :: scan p fuel { s with before := c :: s.before, rest }

/-- What is taken is a word, and so something. -/
theorem exists_of_matchAt? (hp : p.isLocal = true) {s s' : Spot} (h : p.matchAt? false s = some s') :
    ∃ w, s.rest = w ++ s'.rest ∧ p.Words w := by
  rw [matchAt?_false] at h
  obtain ⟨w, s₁, hrest, hw, hsame⟩ := exists_of_run hp h
  obtain rfl := Option.some.inj hsame
  exact ⟨w, hrest, hw⟩

theorem length_pos_of_words (hne : ¬ p.Words []) (hw : p.Words w) : 0 < w.length := by
  refine List.length_pos_iff.mpr ?_
  rintro rfl
  exact hne hw

theorem piecesFrom_eq_scan (hp : p.isLocal = true) (hne : ¬ p.Words []) {fuel : Nat} {s : Spot}
    (hfuel : s.rest.length < fuel) : p.piecesFrom false s = p.scan fuel s := by
  induction fuel generalizing s with
  | zero => exact absurd hfuel (Nat.not_lt_zero _)
  | succ fuel ih =>
    obtain ⟨before, text, groups⟩ := s
    rw [piecesFrom, scan]
    cases hmatch : p.matchAt? false ⟨before, text, groups⟩ with
    | some s' =>
      obtain ⟨w, hrest, hw⟩ := exists_of_matchAt? hp hmatch
      have hshort : s'.rest.length < text.length := by
        rw [show text = w ++ s'.rest from hrest, List.length_append]
        exact Nat.lt_add_of_pos_left (length_pos_of_words hne hw)
      have hnext := @ih { s' with groups := [] } (Nat.lt_of_lt_of_le hshort (Nat.le_of_lt_succ hfuel))
      simp only [if_pos hshort, hnext]
    | none =>
      cases text with
      | nil => rfl
      | cons c rest =>
        have hlength : rest.length < fuel := Nat.lt_of_succ_lt_succ hfuel
        exact congrArg (.kept c :: ·) (@ih ⟨c :: before, rest, groups⟩ hlength)

/-- **Cutting a text is one pass.** -/
theorem pieces_eq_scan (hp : p.isLocal = true) (hne : ¬ p.Words []) (t : Text) :
    p.pieces t = p.scan (t.length + 1) ⟨[], t, []⟩ :=
  piecesFrom_eq_scan hp hne (Nat.lt_succ_self _)

/-! ## 2. A text and its pieces -/

/-- What the search takes off the front of a text, and the rest that it leaves. -/
def Takes (p : Pattern) (w rest : Text) : Prop :=
  ∃ s s', p.matchAt? false s = some s' ∧ s.rest = w ++ rest ∧ s'.rest = rest

theorem Takes.words (hp : p.isLocal = true) (h : p.Takes w rest) : p.Words w := by
  obtain ⟨s, s', hmatch, hs, rfl⟩ := h
  obtain ⟨u, hrest, hu⟩ := exists_of_matchAt? hp hmatch
  obtain rfl : u = w := List.append_cancel_right (hrest.symm.trans hs)
  exact hu

/-- A search that ends with a run takes all of it. -/
theorem Takes.stop {k : CharClass} (hp : p.isLocal = true) (hlast : p.lastRun? = some k)
    (h : p.Takes w rest) : ∀ c, rest.head? = some c → k.holds c = false := by
  obtain ⟨s, s', hmatch, -, rfl⟩ := h
  rw [matchAt?_false] at hmatch
  exact stop_of_lastRun hp hlast hmatch

/-- A text cut into pieces: where a word is next, what the search takes is found; elsewhere a code
point is kept. -/
inductive Cut (p : Pattern) : Text → List Piece → Prop where
  | done : Cut p [] []
  | kept {c : CodePoint} {rest : Text} {ps : List Piece} (hnone : ¬ p.Next (c :: rest))
      (hrest : Cut p rest ps) : Cut p (c :: rest) (.kept c :: ps)
  | found {w rest : Text} {groups : List (Nat × Text)} {ps : List Piece} (htakes : p.Takes w rest)
      (hrest : Cut p rest ps) : Cut p (w ++ rest) (.found w groups :: ps)

theorem cut_scan (hp : p.isLocal = true) (hne : ¬ p.Words []) {fuel : Nat} {s : Spot}
    (hfuel : s.rest.length < fuel) : p.Cut s.rest (p.scan fuel s) := by
  induction fuel generalizing s with
  | zero => exact absurd hfuel (Nat.not_lt_zero _)
  | succ fuel ih =>
    rw [scan]
    cases hmatch : p.matchAt? false s with
    | some s' =>
      obtain ⟨w, hrest, hw⟩ := exists_of_matchAt? hp hmatch
      have hpos := length_pos_of_words hne hw
      have hlength : s.rest.length = w.length + s'.rest.length := by
        rw [hrest, List.length_append]
      have htext : s.textTo s' = w := by
        rw [Spot.textTo, hlength, Nat.add_sub_cancel, hrest, List.take_left]
      simp only [htext]
      rw [hrest]
      exact .found ⟨s, s', hmatch, hrest, rfl⟩ (ih (s := { s' with groups := [] }) (by simp only; omega))
    | none =>
      cases hcons : s.rest with
      | nil => exact .done
      | cons c rest =>
        refine .kept (fun hnext => ?_) (ih (s := { s with before := c :: s.before, rest }) ?_)
        · have hsome := (matchAt?_isSome_iff hp).mpr (hcons ▸ hnext)
          rw [hmatch] at hsome
          exact nomatch hsome
        · rw [hcons, List.length_cons] at hfuel
          exact Nat.lt_of_succ_lt_succ hfuel

/-- **The pieces of a text** are a cut of it. -/
theorem cut_pieces (hp : p.isLocal = true) (hne : ¬ p.Words []) (t : Text) : p.Cut t (p.pieces t) := by
  rw [pieces_eq_scan hp hne]
  exact cut_scan (s := ⟨[], t, []⟩) hp hne (Nat.lt_succ_self _)

namespace Cut

/-- What is found is a word. -/
theorem words_of_found (hp : p.isLocal = true) (h : p.Cut t ps) {groups : List (Nat × Text)}
    (hw : .found w groups ∈ ps) : p.Words w := by
  induction h with
  | done => exact nomatch hw
  | kept hnone hrest ih =>
    obtain heq | hw := List.mem_cons.mp hw
    · exact nomatch heq
    · exact ih hw
  | found htakes hrest ih =>
    obtain heq | hw := List.mem_cons.mp hw
    · cases heq
      exact htakes.words hp
    · exact ih hw

end Cut

end LintMend.Pattern
