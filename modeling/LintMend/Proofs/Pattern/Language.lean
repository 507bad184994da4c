/-
LintMend.Proofs.Pattern.Language — the words that a pattern can match.

Patterns made of classes, sequence, choice, repetition and groups alone look at nothing but the text
from a place on. What such a pattern can match there is a set of words, which says nothing of the
order in which the search tries them. The search finds a match just when a word of the pattern is
next.

  `isLocal`, `Words`       — such patterns, and their words
  `afterRound`             — what follows a round of a repetition
  `exists_of_run`          — what the search takes is a word
  `run_isSome`             — and where a word is next, it takes something
  `matchesSomewhere_iff`   — a text matches if a word occurs in it
  `not_mem_of_avoids`, `starts_of_words`, `least_le_length` — what words can hold and start with, and
                             how long they are
  `stop_of_lastRun`        — a search that ends with a run takes all of it
-/
import LintMend.Pattern.Matching
import LintMend.Pattern.Width

namespace LintMend.Pattern

variable {p q : Pattern} {w rest t : Text} {α : Type}

/-! ## 1. Words -/

/-- A pattern that looks only at the text from a place on, and whose repetitions are possible. -/
def isLocal : Pattern → Bool
  | empty | one _ => true
  | seq p q | alt p q => p.isLocal && q.isLocal
  | .repeat _ least most p => most.all (least ≤ ·) && p.isLocal
  | group _ p => p.isLocal
  | _ => false

/-- What a pattern can match. -/
def Words : Pattern → Text → Prop
  | empty, w => w = []
  | one k, w => ∃ c, k.holds c = true ∧ w = [c]
  | seq p q, w => ∃ u v, w = u ++ v ∧ p.Words u ∧ q.Words v
  | alt p q, w => p.Words w ∨ q.Words w
  | .repeat _ least most p, w => ∃ us : List Text, (∀ u ∈ us, p.Words u) ∧ least ≤ us.length ∧
      (∀ m, most = some m → us.length ≤ m) ∧ w = us.flatten
  | group _ p, w => p.Words w
  | _, _ => False

/-- A word of a pattern is next. -/
def Next (p : Pattern) (t : Text) : Prop :=
  ∃ w, p.Words w ∧ w <+: t

/-- A word of a pattern is somewhere in a text. -/
def Occurs (p : Pattern) (t : Text) : Prop :=
  ∃ after, after <:+ t ∧ p.Next after

/-! ## 2. One code point -/

section

variable {c : CharClass} {d : CodePoint} {s : Spot} {k : Spot → Option α}

/-- The place after one code point. -/
def after (s : Spot) (d : CodePoint) (rest : Text) : Spot :=
  { s with before := d :: s.before, rest }

theorem run_one_cons (hrest : s.rest = d :: rest) (hd : c.holds d = true) :
    (one c).run s k = k (after s d rest) := by
  simp only [run, hrest, hd, if_true, after]

theorem run_one_at {before : Text} {groups : List (Nat × Text)} (hd : c.holds d = true) :
    (one c).run ⟨before, d :: rest, groups⟩ k = k ⟨d :: before, rest, groups⟩ :=
  run_one_cons rfl hd

theorem run_one_none (h : ∀ d, s.rest.head? = some d → c.holds d = false) :
    (one c).run s k = none := by
  rw [run]
  split
  · rfl
  · next d rest hrest =>
    rw [hrest] at h
    rw [if_neg (by simp [h d rfl])]

theorem run_one_eq_some {a : α} (h : (one c).run s k = some a) :
    ∃ d rest, s.rest = d :: rest ∧ c.holds d = true ∧ k (after s d rest) = some a := by
  rw [run] at h
  split at h
  · exact nomatch h
  · next d rest hrest =>
    split at h
    · next hd => exact ⟨d, rest, hrest, hd, h⟩
    · exact nomatch h

end

/-! ## 3. Rounds of a repetition -/

theorem of_orElse_eq_some {first : Option α} {second : Unit → Option α} {a : α}
    (h : (first.orElse second) = some a) : first = some a ∨ second () = some a := by
  cases first with
  | none => exact Or.inr h
  | some b => exact Or.inl h

theorem orElse_isSome {first : Option α} {second : Unit → Option α}
    (h : first.isSome = true ∨ (second ()).isSome = true) : (first.orElse second).isSome = true := by
  cases first with
  | none =>
    obtain h | h := h
    · exact nomatch h
    · exact h
  | some a => rfl

/-- What follows a round that might have been left out: further rounds, unless it moved nowhere. -/
def afterRound (step : Spot → (Spot → Option α) → Option α) (greedy : Bool) (fuel : Nat)
    (most : Option Nat) (s : Spot) (k : Spot → Option α) (s' : Spot) : Option α :=
  if s'.rest.length = s.rest.length then k s'
  else runRepeat step greedy fuel 0 (most.map (· - 1)) s' k

section

variable {step : Spot → (Spot → Option α) → Option α} {greedy : Bool} {fuel : Nat}
  {most : Option Nat} {s : Spot} {k : Spot → Option α}

/-- A repetition that has made its rounds stops, or makes a further one. -/
theorem runRepeat_zero_eq_some {a : α} (h : runRepeat step greedy (fuel + 1) 0 most s k = some a) :
    k s = some a ∨ most ≠ some 0 ∧ step s (afterRound step greedy fuel most s k) = some a := by
  rw [runRepeat] at h
  split at h
  · exact Or.inl h
  · next hmore =>
    split at h
    · obtain hround | hstop := of_orElse_eq_some h
      · exact Or.inr ⟨hmore, hround⟩
      · exact Or.inl hstop
    · obtain hstop | hround := of_orElse_eq_some h
      · exact Or.inl hstop
      · exact Or.inr ⟨hmore, hround⟩

/-- It takes something if it can where it stops or after a further round. -/
theorem runRepeat_zero_isSome (h : (k s).isSome = true ∨
      most ≠ some 0 ∧ (step s (afterRound step greedy fuel most s k)).isSome = true) :
    (runRepeat step greedy (fuel + 1) 0 most s k).isSome = true := by
  rw [runRepeat]
  split
  · next hnone =>
    obtain hstop | ⟨hmore, -⟩ := h
    · exact hstop
    · exact absurd hnone hmore
  · have h' := h.imp_right And.right
    split
    · exact orElse_isSome h'.symm
    · exact orElse_isSome h'

/-- The bound on the rounds that are left after one of them. -/
theorem rounds_left {n : Nat} (h : ∀ m, most = some m → n + 1 ≤ m) :
    ∀ m, most.map (· - 1) = some m → n ≤ m := by
  intro m hm
  obtain ⟨bound, hbound, rfl⟩ := Option.map_eq_some_iff.mp hm
  exact Nat.le_sub_one_of_lt (h bound hbound)

/-- The bound on all rounds, from that on those that were left after the first. -/
theorem rounds_with_first {n : Nat} (hfirst : ∀ m, most = some m → 1 ≤ m)
    (h : ∀ m, most.map (· - 1) = some m → n ≤ m) : ∀ m, most = some m → n + 1 ≤ m := by
  intro m hm
  have hleft := h (m - 1) (by rw [hm]; rfl)
  have hpositive := hfirst m hm
  omega

end

/-! ## 4. What the search takes -/

/-- A repetition takes as many words as it may. -/
theorem exists_of_runRepeat {step : Spot → (Spot → Option α) → Option α} {P : Text → Prop}
    (hstep : ∀ {s : Spot} {k : Spot → Option α} {a : α}, step s k = some a →
      ∃ w s', s.rest = w ++ s'.rest ∧ P w ∧ k s' = some a) {greedy : Bool} {a : α}
    {k : Spot → Option α} {fuel least : Nat} {most : Option Nat} {s : Spot}
    (hfuel : s.rest.length + least < fuel) (hmost : ∀ m, most = some m → least ≤ m)
    (h : runRepeat step greedy fuel least most s k = some a) :
    ∃ (us : List Text) (s' : Spot), s.rest = us.flatten ++ s'.rest ∧ (∀ u ∈ us, P u) ∧
      least ≤ us.length ∧ (∀ m, most = some m → us.length ≤ m) ∧ k s' = some a := by
  -- each round that is owed or that moves on uses up fuel, and there is enough for all of them
  induction fuel generalizing least most s with
  | zero => exact absurd hfuel (Nat.not_lt_zero _)
  | succ fuel ih =>
    cases least with
    | succ least =>
      obtain ⟨w, s₁, hrest, hw, hnext⟩ := hstep h
      have hlength : s₁.rest.length ≤ s.rest.length := by simp [hrest]
      have hpositive : ∀ m, most = some m → 1 ≤ m :=
        fun m hm => Nat.le_trans (Nat.le_add_left 1 least) (hmost m hm)
      obtain ⟨us, s', hus, hwords, hleast, hbound, hk⟩ := ih (by omega) (rounds_left hmost) hnext
      exact ⟨w :: us, s', by simp [hrest, hus], List.forall_mem_cons.mpr ⟨hw, hwords⟩,
        Nat.succ_le_succ hleast, rounds_with_first hpositive hbound, hk⟩
    | zero =>
      obtain hstop | ⟨hmore, hround⟩ := runRepeat_zero_eq_some h
      · exact ⟨[], s, rfl, List.forall_mem_nil _, Nat.le_refl 0, fun m _ => Nat.zero_le m, hstop⟩
      obtain ⟨w, s₁, hrest, hw, hnext⟩ := hstep hround
      have hpositive : ∀ m, most = some m → 1 ≤ m := by
        rintro m rfl
        exact Nat.one_le_iff_ne_zero.mpr fun hzero => hmore (by rw [hzero])
      unfold afterRound at hnext
      split at hnext
      · exact ⟨[w], s₁, by simpa using hrest, by simpa using hw, Nat.zero_le _, hpositive, hnext⟩
      · next hmoved =>
        have hlength : s₁.rest.length < s.rest.length := by
          have : s.rest.length = w.length + s₁.rest.length := by rw [hrest, List.length_append]
          omega
        obtain ⟨us, s', hus, hwords, -, hbound, hk⟩ :=
          ih (by omega) (fun m _ => Nat.zero_le m) hnext
        exact ⟨w :: us, s', by simp [hrest, hus], List.forall_mem_cons.mpr ⟨hw, hwords⟩,
          Nat.zero_le _, rounds_with_first hpositive hbound, hk⟩

/-- **What the search takes is a word.** -/
theorem exists_of_run (hp : p.isLocal = true) {s : Spot} {k : Spot → Option α} {a : α}
    (h : p.run s k = some a) : ∃ w s', s.rest = w ++ s'.rest ∧ p.Words w ∧ k s' = some a := by
  induction p generalizing s k a with
  | empty => exact ⟨[], s, rfl, rfl, h⟩
  | one c =>
    obtain ⟨d, rest, hrest, hd, hk⟩ := run_one_eq_some h
    exact ⟨[d], after s d rest, hrest, ⟨d, hd, rfl⟩, hk⟩
  | seq p q ihp ihq =>
    obtain ⟨hp, hq⟩ := Bool.and_eq_true_iff.mp hp
    obtain ⟨u, s₁, hu, hwu, hnext⟩ := ihp hp h
    obtain ⟨v, s', hv, hwv, hk⟩ := ihq hq hnext
    exact ⟨u ++ v, s', by rw [hu, hv, List.append_assoc], ⟨u, v, rfl, hwu, hwv⟩, hk⟩
  | alt p q ihp ihq =>
    obtain ⟨hp, hq⟩ := Bool.and_eq_true_iff.mp hp
    obtain hfirst | hsecond := of_orElse_eq_some h
    · obtain ⟨w, s', hrest, hw, hk⟩ := ihp hp hfirst
      exact ⟨w, s', hrest, Or.inl hw, hk⟩
    · obtain ⟨w, s', hrest, hw, hk⟩ := ihq hq hsecond
      exact ⟨w, s', hrest, Or.inr hw, hk⟩
  | «repeat» greedy least most p ih =>
    obtain ⟨hmost, hp⟩ := Bool.and_eq_true_iff.mp hp
    have hmost : ∀ m, most = some m → least ≤ m := by
      rintro m rfl
      simpa using hmost
    obtain ⟨us, s', hrest, hus, hleast, hbound, hk⟩ :=
      exists_of_runRepeat (fun hstep => ih hp hstep) (Nat.lt_succ_self _) hmost h
    exact ⟨us.flatten, s', hrest, ⟨us, hus, hleast, hbound, rfl⟩, hk⟩
  | group number p ih =>
    obtain ⟨w, s', hrest, hw, hk⟩ := ih hp h
    exact ⟨w, s.remember number s', hrest, hw, hk⟩
  | textStart | textEnd | lastLineEnd | wordEdge | atomic | look | same | ifGroup => exact nomatch hp

/-! ## 5. That the search takes something -/

/-- Words one after the other are taken by a repetition, if what follows goes along. -/
theorem runRepeat_isSome {step : Spot → (Spot → Option α) → Option α} {P : Text → Prop}
    (hstep : ∀ {s : Spot} {k : Spot → Option α} {w rest : Text}, P w → s.rest = w ++ rest →
      (∀ s', s'.rest = rest → (k s').isSome = true) → (step s k).isSome = true) {greedy : Bool}
    {k : Spot → Option α} {fuel least : Nat} {most : Option Nat} {s : Spot} {us : List Text}
    (hus : ∀ u ∈ us, P u) (hrest : s.rest = us.flatten ++ rest)
    (hk : ∀ s', s'.rest = rest → (k s').isSome = true) (hleast : least ≤ us.length)
    (hmost : ∀ m, most = some m → us.length ≤ m) (hfuel : s.rest.length + least < fuel) :
    (runRepeat step greedy fuel least most s k).isSome = true := by
  obtain ⟨fuel, rfl⟩ := Nat.exists_eq_succ_of_ne_zero (Nat.ne_of_gt (Nat.zero_lt_of_lt hfuel))
  induction us generalizing fuel least most s with
  | nil =>
    obtain rfl : least = 0 := Nat.le_zero.mp hleast
    exact runRepeat_zero_isSome (Or.inl (hk s hrest))
  | cons u us ih =>
    obtain ⟨hu, htail⟩ := List.forall_mem_cons.mp hus
    have hnext : s.rest = u ++ (us.flatten ++ rest) := by simp [hrest]
    have hagain : ∀ {s₁ : Spot} {least₁ : Nat}, s₁.rest = us.flatten ++ rest →
        least₁ ≤ us.length → s₁.rest.length + least₁ < fuel →
        (runRepeat step greedy fuel least₁ (most.map (· - 1)) s₁ k).isSome = true := by
      intro s₁ least₁ hs₁ hleast₁ hfuel₁
      obtain ⟨fuel, rfl⟩ := Nat.exists_eq_succ_of_ne_zero (Nat.ne_of_gt (Nat.zero_lt_of_lt hfuel₁))
      exact ih htail hs₁ hleast₁ (rounds_left hmost) fuel hfuel₁
    cases least with
    | succ least =>
      refine hstep hu hnext fun s₁ hs₁ => ?_
      have hlength : s₁.rest.length ≤ s.rest.length := by
        rw [hs₁, hnext]
        simp
      exact hagain hs₁ (Nat.le_of_succ_le_succ hleast) (by omega)
    | zero =>
      cases u with
      | nil =>
        -- a word of nothing may be left out
        exact ih htail hnext (Nat.zero_le _)
          (fun m hm => Nat.le_trans (Nat.le_succ _) (hmost m hm)) fuel hfuel
      | cons c u =>
        have hmore : most ≠ some 0 := by
          intro hzero
          exact absurd (hmost 0 hzero) (Nat.not_succ_le_zero _)
        refine runRepeat_zero_isSome (Or.inr ⟨hmore, hstep hu hnext fun s₁ hs₁ => ?_⟩)
        have hlength : s₁.rest.length < s.rest.length := by
          rw [hs₁, hnext, @List.length_append _ (c :: u), List.length_cons]
          omega
        rw [afterRound, if_neg (Nat.ne_of_lt hlength)]
        exact hagain hs₁ (Nat.zero_le _) (by omega)

/-- **Where a word is next, the search takes something.** -/
theorem run_isSome (hp : p.isLocal = true) {s : Spot} {k : Spot → Option α} (hw : p.Words w)
    (hrest : s.rest = w ++ rest) (hk : ∀ s', s'.rest = rest → (k s').isSome = true) :
    (p.run s k).isSome = true := by
  induction p generalizing s k w rest with
  | empty =>
    obtain rfl : w = [] := hw
    exact hk s hrest
  | one c =>
    obtain ⟨d, hd, rfl⟩ := hw
    rw [run_one_cons hrest hd]
    exact hk _ rfl
  | seq p q ihp ihq =>
    obtain ⟨hp, hq⟩ := Bool.and_eq_true_iff.mp hp
    obtain ⟨u, v, rfl, hu, hv⟩ := hw
    rw [List.append_assoc] at hrest
    exact ihp hp hu hrest fun s₁ hs₁ => ihq hq hv hs₁ hk
  | alt p q ihp ihq =>
    obtain ⟨hp, hq⟩ := Bool.and_eq_true_iff.mp hp
    obtain hw | hw := hw
    · exact orElse_isSome (Or.inl (ihp hp hw hrest hk))
    · exact orElse_isSome (Or.inr (ihq hq hw hrest hk))
  | «repeat» greedy least most p ih =>
    obtain ⟨-, hp⟩ := Bool.and_eq_true_iff.mp hp
    obtain ⟨us, hus, hleast, hmost, rfl⟩ := hw
    exact runRepeat_isSome (fun hu hs hnext => ih hp hu hs hnext) hus hrest hk hleast hmost
      (Nat.lt_succ_self _)
  | group number p ih => exact ih hp hw hrest fun s' hs' => hk _ hs'
  | textStart | textEnd | lastLineEnd | wordEdge | atomic | look | same | ifGroup => exact nomatch hp

/-! ## 6. Searching -/

theorem matchAt?_false (s : Spot) : p.matchAt? false s = p.run { s with groups := [] } some := by
  rw [matchAt?]
  simp only [Bool.false_and, Bool.false_eq_true, if_false]

/-- A pattern matches at a place just when a word is next. -/
theorem matchAt?_isSome_iff (hp : p.isLocal = true) {s : Spot} :
    (p.matchAt? false s).isSome = true ↔ p.Next s.rest := by
  rw [matchAt?_false]
  constructor
  · intro h
    obtain ⟨s', hs'⟩ := Option.isSome_iff_exists.mp h
    obtain ⟨w, s'', hrest, hw, -⟩ := exists_of_run hp hs'
    exact ⟨w, hw, s''.rest, hrest.symm⟩
  · rintro ⟨w, hw, rest, hrest⟩
    exact run_isSome hp hw hrest.symm fun s' _ => rfl

theorem matchesFrom_iff (hp : p.isLocal = true) {before : Text} :
    p.matchesFrom before t = true ↔ p.Occurs t := by
  induction t generalizing before with
  | nil =>
    rw [matchesFrom, matchAt?_isSome_iff hp]
    constructor
    · intro h
      exact ⟨[], List.suffix_refl _, h⟩
    · rintro ⟨after, hafter, h⟩
      rwa [List.suffix_nil.mp hafter] at h
  | cons c t ih =>
    rw [matchesFrom, Bool.or_eq_true]
    refine (or_congr (matchAt?_isSome_iff hp) ih).trans ?_
    constructor
    · rintro (h | ⟨after, hafter, h⟩)
      · exact ⟨c :: t, List.suffix_refl _, h⟩
      · exact ⟨after, hafter.trans (List.suffix_cons c t), h⟩
    · rintro ⟨after, hafter, h⟩
      obtain rfl | hafter := List.suffix_cons_iff.mp hafter
      · exact Or.inl h
      · exact Or.inr ⟨after, hafter, h⟩

/-- **A text matches if a word occurs in it.** -/
theorem matchesSomewhere_iff (hp : p.isLocal = true) :
    p.matchesSomewhere t = true ↔ p.Occurs t :=
  matchesFrom_iff hp

/-! ## 7. What words hold -/

/-- A code point that is in no class of a pattern. -/
def avoids (c : CodePoint) : Pattern → Bool
  | empty => true
  | one k => !k.holds c
  | seq p q | alt p q => p.avoids c && q.avoids c
  | .repeat _ _ _ p | group _ p => p.avoids c
  | _ => true

theorem not_mem_of_avoids {c : CodePoint} (hp : p.avoids c = true) (hw : p.Words w) : c ∉ w := by
  induction p generalizing w with
  | empty =>
    obtain rfl : w = [] := hw
    exact List.not_mem_nil
  | one k =>
    obtain ⟨d, hd, rfl⟩ := hw
    intro hc
    rw [List.mem_singleton.mp hc, avoids, hd] at hp
    exact nomatch hp
  | seq p q ihp ihq =>
    obtain ⟨hp, hq⟩ := Bool.and_eq_true_iff.mp hp
    obtain ⟨u, v, rfl, hu, hv⟩ := hw
    exact List.not_mem_append (ihp hp hu) (ihq hq hv)
  | alt p q ihp ihq =>
    obtain ⟨hp, hq⟩ := Bool.and_eq_true_iff.mp hp
    obtain hw | hw := hw
    · exact ihp hp hw
    · exact ihq hq hw
  | «repeat» greedy least most p ih =>
    obtain ⟨us, hus, -, -, rfl⟩ := hw
    intro hc
    obtain ⟨u, hu, hmem⟩ := List.mem_flatten.mp hc
    exact ih hp (hus u hu) hmem
  | group number p ih => exact ih hp hw
  | textStart | textEnd | lastLineEnd | wordEdge | atomic | look | same | ifGroup => exact hw.elim

/-- Whether a word of nothing may be among those of a pattern. -/
def mayBeEmpty : Pattern → Bool
  | empty => true
  | seq p q => p.mayBeEmpty && q.mayBeEmpty
  | alt p q => p.mayBeEmpty || q.mayBeEmpty
  | .repeat _ least _ p => least == 0 || p.mayBeEmpty
  | group _ p => p.mayBeEmpty
  | _ => false

theorem mayBeEmpty_of_words (hw : p.Words []) : p.mayBeEmpty = true := by
  induction p with
  | empty => rfl
  | one k =>
    obtain ⟨d, -, hnil⟩ := hw
    exact nomatch hnil
  | seq p q ihp ihq =>
    obtain ⟨u, v, hnil, hu, hv⟩ := hw
    obtain ⟨rfl, rfl⟩ := List.append_eq_nil_iff.mp hnil.symm
    exact Bool.and_eq_true_iff.mpr ⟨ihp hu, ihq hv⟩
  | alt p q ihp ihq => exact (Bool.or_eq_true _ _).mpr (hw.imp ihp ihq)
  | «repeat» greedy least most p ih =>
    obtain ⟨us, hus, hleast, -, hnil⟩ := hw
    refine (Bool.or_eq_true _ _).mpr ?_
    cases us with
    | nil => exact Or.inl (beq_iff_eq.mpr (Nat.le_zero.mp hleast))
    | cons u us =>
      obtain ⟨rfl, -⟩ := List.append_eq_nil_iff.mp hnil.symm
      exact Or.inr (ih (hus [] List.mem_cons_self))
  | group number p ih => exact ih hw
  | textStart | textEnd | lastLineEnd | wordEdge | atomic | look | same | ifGroup => exact hw.elim

/-- Whether a word of a pattern may start with a code point. -/
def starts (c : CodePoint) : Pattern → Bool
  | one k => k.holds c
  | seq p q => p.starts c || (p.mayBeEmpty && q.starts c)
  | alt p q => p.starts c || q.starts c
  | .repeat _ _ _ p | group _ p => p.starts c
  | _ => false

theorem starts_of_words {c : CodePoint} (hw : p.Words (c :: w)) : p.starts c = true := by
  induction p generalizing w with
  | empty => exact nomatch hw
  | one k =>
    obtain ⟨d, hd, hsame⟩ := hw
    rwa [(List.cons.inj hsame).1]
  | seq p q ihp ihq =>
    obtain ⟨u, v, hsame, hu, hv⟩ := hw
    refine (Bool.or_eq_true _ _).mpr ?_
    cases u with
    | nil =>
      obtain rfl : c :: w = v := hsame
      exact Or.inr (Bool.and_eq_true_iff.mpr ⟨mayBeEmpty_of_words hu, ihq hv⟩)
    | cons d u =>
      obtain ⟨rfl, -⟩ := List.cons.inj hsame
      exact Or.inl (ihp hu)
  | alt p q ihp ihq => exact (Bool.or_eq_true _ _).mpr (hw.imp ihp ihq)
  | «repeat» greedy least most p ih =>
    obtain ⟨us, hus, -, -, hsame⟩ := hw
    obtain ⟨front, u, back, rfl, -, -⟩ := List.flatten_eq_cons_iff.mp hsame.symm
    exact ih (hus (c :: u) (by simp))
  | group number p ih => exact ih hw
  | textStart | textEnd | lastLineEnd | wordEdge | atomic | look | same | ifGroup => exact hw.elim

/-- A word is no shorter than the width of its pattern says. -/
theorem least_le_length (groups : Nat → Width) (hw : p.Words w) :
    (p.width groups).least ≤ w.length := by
  induction p generalizing w with
  | empty => exact Nat.zero_le _
  | one k =>
    obtain ⟨d, -, rfl⟩ := hw
    exact Nat.le_refl 1
  | seq p q ihp ihq =>
    obtain ⟨u, v, rfl, hu, hv⟩ := hw
    rw [List.length_append]
    exact Nat.add_le_add (ihp hu) (ihq hv)
  | alt p q ihp ihq =>
    obtain hw | hw := hw
    · exact Nat.le_trans (Nat.min_le_left _ _) (ihp hw)
    · exact Nat.le_trans (Nat.min_le_right _ _) (ihq hw)
  | «repeat» greedy least most p ih =>
    obtain ⟨us, hus, hleast, -, rfl⟩ := hw
    refine Nat.le_trans (Nat.mul_le_mul_right _ hleast) ?_
    clear hleast
    induction us with
    | nil => simp
    | cons u us ihus =>
      obtain ⟨hu, hus⟩ := List.forall_mem_cons.mp hus
      rw [List.length_cons, Nat.succ_mul, List.flatten_cons, List.length_append, Nat.add_comm]
      exact Nat.add_le_add (ih hu) (ihus hus)
  | group number p ih => exact ih hw
  | textStart | textEnd | lastLineEnd | wordEdge | atomic | look | same | ifGroup => exact hw.elim

/-! ## 8. Texts, lists of patterns and runs -/

theorem words_all_cons {ps : List Pattern} :
    (all (p :: ps)).Words w ↔ ∃ u v, w = u ++ v ∧ p.Words u ∧ (all ps).Words v := by
  cases ps with
  | nil =>
    constructor
    · intro h
      exact ⟨w, [], (List.append_nil w).symm, h, rfl⟩
    · rintro ⟨u, v, rfl, hu, rfl⟩
      rwa [List.append_nil]
  | cons q ps => exact Iff.rfl

theorem words_all_append (ps qs : List Pattern) :
    (all (ps ++ qs)).Words w ↔ ∃ u v, w = u ++ v ∧ (all ps).Words u ∧ (all qs).Words v := by
  induction ps generalizing w with
  | nil =>
    constructor
    · intro h
      exact ⟨[], w, rfl, rfl, h⟩
    · rintro ⟨u, v, rfl, rfl, hv⟩
      exact hv
  | cons p ps ih =>
    rw [List.cons_append, words_all_cons]
    constructor
    · rintro ⟨u, v, rfl, hu, hv⟩
      obtain ⟨u', v', rfl, hu', hv'⟩ := ih.mp hv
      exact ⟨u ++ u', v', by rw [List.append_assoc], words_all_cons.mpr ⟨u, u', rfl, hu, hu'⟩, hv'⟩
    · rintro ⟨front, v, rfl, hfront, hv⟩
      obtain ⟨u, u', rfl, hu, hu'⟩ := words_all_cons.mp hfront
      exact ⟨u, u' ++ v, by rw [List.append_assoc], hu, ih.mpr ⟨u', v, rfl, hu', hv⟩⟩

theorem holds_range_self {c d : CodePoint} : (ClassItem.range c c).holds d = true ↔ d = c := by
  have hrange : (ClassItem.range c c).holds d = true ↔ c.val ≤ d.val ∧ d.val ≤ c.val := by
    simp [ClassItem.holds]
  rw [hrange]
  constructor
  · rintro ⟨hlow, hhigh⟩
    cases c
    cases d
    exact congrArg CodePoint.mk (Nat.le_antisymm hhigh hlow)
  · rintro rfl
    exact ⟨Nat.le_refl _, Nat.le_refl _⟩

theorem holds_single_iff {c d : CodePoint} : (CharClass.single c).holds d = true ↔ d = c := by
  simp [CharClass.single, CharClass.holds, holds_range_self]

theorem words_literal {u : Text} : (literal u).Words w ↔ w = u := by
  induction u generalizing w with
  | nil => exact Iff.rfl
  | cons c u ih =>
    rw [literal, List.map_cons, words_all_cons]
    constructor
    · rintro ⟨front, back, rfl, ⟨d, hd, rfl⟩, hback⟩
      obtain rfl : back = u := ih.mp hback
      rw [(holds_single_iff.mp hd), List.singleton_append]
    · rintro rfl
      exact ⟨[c], u, rfl, ⟨c, holds_single_iff.mpr rfl, rfl⟩, ih.mpr rfl⟩

/-- The words of a run are made of code points of its class. -/
theorem words_repeat_one {greedy : Bool} {least : Nat} {most : Option Nat} {k : CharClass} :
    (Pattern.repeat greedy least most (one k)).Words w ↔
      least ≤ w.length ∧ (∀ m, most = some m → w.length ≤ m) ∧ ∀ c ∈ w, k.holds c = true := by
  constructor
  · rintro ⟨us, hus, hleast, hmost, rfl⟩
    have hlength : us.flatten.length = us.length := by
      clear hleast hmost
      induction us with
      | nil => rfl
      | cons u us ih =>
        obtain ⟨⟨d, -, rfl⟩, htail⟩ := List.forall_mem_cons.mp hus
        rw [List.flatten_cons, List.length_append, ih htail, List.length_cons, Nat.add_comm]
        rfl
    rw [hlength]
    refine ⟨hleast, hmost, fun c hc => ?_⟩
    obtain ⟨u, hu, hmem⟩ := List.mem_flatten.mp hc
    obtain ⟨d, hd, rfl⟩ := hus u hu
    rwa [List.mem_singleton.mp hmem]
  · rintro ⟨hleast, hmost, hall⟩
    refine ⟨w.map fun c => [c], fun u hu => ?_, by rwa [List.length_map],
      fun m hm => by rw [List.length_map]; exact hmost m hm, ?_⟩
    · obtain ⟨c, hc, rfl⟩ := List.mem_map.mp hu
      exact ⟨c, hall c hc, rfl⟩
    · clear hleast hmost hall
      induction w with
      | nil => rfl
      | cons c w ih => exact congrArg (c :: ·) ih

/-- The class of the run with which a pattern ends, if it ends with one. -/
def lastRun? : Pattern → Option CharClass
  | seq _ q => q.lastRun?
  | .repeat true _ none (one k) => some k
  | _ => none

/-- A run takes all that it can. -/
theorem stop_of_runRepeat {k : CharClass} {fuel least : Nat} {s s' : Spot}
    (hfuel : s.rest.length + least < fuel)
    (h : runRepeat (one k).run true fuel least none s some = some s') :
    ∀ c, s'.rest.head? = some c → k.holds c = false := by
  induction fuel generalizing least s with
  | zero => exact absurd hfuel (Nat.not_lt_zero _)
  | succ fuel ih =>
    cases least with
    | succ least =>
      obtain ⟨d, rest, hrest, -, hnext⟩ := run_one_eq_some h
      refine ih ?_ hnext
      rw [hrest, List.length_cons] at hfuel
      simp only [after]
      omega
    | zero =>
      rw [runRepeat, if_neg (by simp)] at h
      simp only [if_true] at h
      by_cases hstop : ∀ c, s.rest.head? = some c → k.holds c = false
      · rw [run_one_none hstop] at h
        obtain rfl : s = s' := Option.some.inj h
        exact hstop
      -- one more round can be made, so what the search comes to is what comes of that round
      simp only [Classical.not_forall] at hstop
      obtain ⟨d, hhead, hd⟩ := hstop
      obtain ⟨rest, hrest⟩ := List.head?_eq_some_iff.mp hhead
      rw [run_one_cons hrest ((Bool.not_eq_false _).mp hd), if_neg (by simp [after, hrest])] at h
      have hmore : (after s d rest).rest.length + 0 < fuel := by
        rw [hrest, List.length_cons] at hfuel
        simp only [after]
        omega
      have hgoes : (runRepeat (one k).run true fuel 0 none (after s d rest) some).isSome = true :=
        runRepeat_isSome (P := (one k).Words)
          (fun hw hs hk => run_isSome (p := one k) rfl hw hs hk) (List.forall_mem_nil _) rfl
          (fun s' _ => rfl) (Nat.le_refl 0) (fun m _ => Nat.zero_le m) hmore
      obtain ⟨s₁, hs₁⟩ := Option.isSome_iff_exists.mp hgoes
      simp only [Option.map_none] at h
      rw [hs₁] at h
      obtain rfl : s₁ = s' := Option.some.inj h
      exact ih hmore hs₁

/-- **A search that ends with a run** leaves nothing after it that could prolong the run. -/
theorem stop_of_lastRun {k : CharClass} (hp : p.isLocal = true) (hlast : p.lastRun? = some k)
    {s s' : Spot} (h : p.run s some = some s') : ∀ c, s'.rest.head? = some c → k.holds c = false := by
  induction p generalizing s with
  | seq p q ihp ihq =>
    obtain ⟨hp, hq⟩ := Bool.and_eq_true_iff.mp hp
    obtain ⟨-, s₁, -, -, hnext⟩ := exists_of_run hp h
    exact ihq hq hlast hnext
  | «repeat» greedy least most p ih =>
    match greedy, most, p, hlast with
    | true, none, one k, hlast =>
      obtain rfl := Option.some.inj hlast
      exact stop_of_runRepeat (Nat.lt_succ_self _) h
  | empty | one | alt | group => exact nomatch hlast
  | textStart | textEnd | lastLineEnd | wordEdge | atomic | look | same | ifGroup => exact nomatch hp

end LintMend.Pattern
