/-
LintMend.Proofs.Redaction.Trace — where the code points of a redacted text come from.

Each rule keeps code points and puts placeholders for the others. Following every code point through
the rules gives the redacted text once more, now with the place of the first text from which each
kept code point comes. Such a text is laid out along the first one: what is kept stands in order,
and every placeholder stands for something that was there.

  `Traced`, `mark`, `follow`, `trace` — texts with places, one rule, and all rules
  `Survives`                          — a place of the first text that is still there
  `Laid`                              — a traced text along the text that it comes from
  `EndsBetween`, `Laid.follow`        — a rule that takes off whole parts keeps the layout
  `map_fst_trace`, `laid_trace`       — the standard rules
-/
import LintMend.Proofs.Redaction.Settling

namespace LintMend

open Pattern SecretRule

variable {p : Pattern} {t u rest : Text} {ps : List Piece} {n i : Nat}

/-! ## 1. Texts with places -/

/-- A code point and the place of a first text from which it comes, unless it was put in later. -/
abbrev Traced := CodePoint × Option Nat

/-- A text with its places, counted from a number on. -/
def mark : Nat → Text → List Traced
  | _, [] => []
  | n, c :: t => (c, some n) :: mark (n + 1) t

/-- The placeholder, which comes from nowhere. -/
def tracedPlaceholder : List Traced :=
  Redactor.standardPlaceholder.map (·, none)

/-- Pieces with the placeholder for every match, where the kept code points have their places. -/
def follow : List Piece → List Traced → List Traced
  | [], _ => []
  | .kept _ :: ps, xs => xs.take 1 ++ follow ps (xs.drop 1)
  | .found w _ :: ps, xs => tracedPlaceholder ++ follow ps (xs.drop w.length)

/-- One rule. -/
def SecretRule.traced (rule : SecretRule) (xs : List Traced) : List Traced :=
  follow (rule.pattern.pieces (xs.map Prod.fst)) xs

/-- Some rules, one after the other. -/
def tracedBy (rules : List SecretRule) (xs : List Traced) : List Traced :=
  rules.foldl (fun xs rule => rule.traced xs) xs

/-- A text after some rules, with the places of its own code points. -/
def trace (rules : List SecretRule) (t : Text) : List Traced :=
  tracedBy rules (mark 0 t)

/-- A place of the first text is still there. -/
def Survives (i : Nat) (xs : List Traced) : Prop :=
  ∃ c, (c, some i) ∈ xs

variable {xs ys : List Traced}

theorem map_fst_mark (n : Nat) (t : Text) : (mark n t).map Prod.fst = t := by
  induction t generalizing n with
  | nil => rfl
  | cons c t ih => exact congrArg (c :: ·) (ih (n + 1))

theorem length_mark (n : Nat) (t : Text) : (mark n t).length = t.length := by
  rw [← List.length_map, map_fst_mark]

theorem drop_mark (n : Nat) (u : Text) (xs : List Traced) : (mark n u ++ xs).drop u.length = xs := by
  rw [← length_mark n u, List.drop_left]

theorem mark_append (n : Nat) (u t : Text) : mark n (u ++ t) = mark n u ++ mark (n + u.length) t := by
  induction u generalizing n with
  | nil => rfl
  | cons c u ih =>
    rw [List.length_cons, Nat.add_comm u.length, ← Nat.add_assoc]
    exact congrArg ((c, some n) :: ·) (ih (n + 1))

theorem map_fst_tracedPlaceholder :
    tracedPlaceholder.map Prod.fst = Redactor.standardPlaceholder := by
  decide

theorem trace_append (rules more : List SecretRule) (t : Text) :
    trace (rules ++ more) t = tracedBy more (trace rules t) :=
  List.foldl_append

theorem survives_append : Survives i (xs ++ ys) ↔ Survives i xs ∨ Survives i ys := by
  simp only [Survives, List.mem_append, exists_or]

theorem not_survives_placeholder : ¬ Survives i tracedPlaceholder := by
  rintro ⟨c, hc⟩
  obtain ⟨d, -, hd⟩ := List.mem_map.mp hc
  exact nomatch hd

theorem survives_mark_iff : Survives i (mark n t) ↔ n ≤ i ∧ i < n + t.length := by
  induction t generalizing n with
  | nil =>
    constructor
    · rintro ⟨c, hc⟩
      exact nomatch hc
    · rintro ⟨hlow, hhigh⟩
      exact absurd hlow (Nat.not_le_of_lt hhigh)
  | cons c t ih =>
    have hhead : Survives i [(c, some n)] ↔ i = n := by
      simp [Survives, eq_comm]
    have hcons : mark n (c :: t) = [(c, some n)] ++ mark (n + 1) t := rfl
    rw [hcons, survives_append, hhead, ih, List.length_cons]
    omega

/-! ## 2. One rule -/

/-- What is followed is the text with the matches replaced. -/
theorem map_fst_follow (h : p.Cut t ps) (hxs : xs.map Prod.fst = t) :
    (follow ps xs).map Prod.fst = veil ps := by
  induction h generalizing xs with
  | done => rfl
  | @kept c rest ps hnone hrest ih =>
    obtain ⟨x, ys, rfl, rfl, hys⟩ := List.map_eq_cons_iff.mp hxs
    exact congrArg (x.1 :: ·) (ih hys)
  | @found w rest groups ps htakes hrest ih =>
    obtain ⟨front, ys, rfl, rfl, hys⟩ := List.map_eq_append_iff.mp hxs
    rw [follow, List.map_append, map_fst_tracedPlaceholder, veil_found, List.length_map,
      List.drop_left, ih hys]

theorem survives_of_follow (h : Survives i (follow ps xs)) : Survives i xs := by
  induction ps generalizing xs with
  | nil =>
    obtain ⟨c, hc⟩ := h
    exact nomatch hc
  | cons piece ps ih =>
    cases piece with
    | kept d =>
      obtain ⟨c, hc⟩ | hlater := survives_append.mp h
      · exact ⟨c, List.mem_of_mem_take hc⟩
      · obtain ⟨c, hc⟩ := ih hlater
        exact ⟨c, List.mem_of_mem_drop hc⟩
    | found w groups =>
      obtain hput | hlater := survives_append.mp h
      · exact absurd hput not_survives_placeholder
      · obtain ⟨c, hc⟩ := ih hlater
        exact ⟨c, List.mem_of_mem_drop hc⟩

/-- No rule brings back what is gone. -/
theorem survives_of_tracedBy {rules : List SecretRule} (h : Survives i (tracedBy rules xs)) :
    Survives i xs := by
  induction rules generalizing xs with
  | nil => exact h
  | cons rule rules ih => exact survives_of_follow (ih h)

/-- Where nothing is found, nothing is replaced. -/
theorem follow_eq_self (h : p.Cut t ps) (hp : p.isLocal = true) (hnone : ¬ p.Occurs t)
    (hxs : xs.map Prod.fst = t) : follow ps xs = xs := by
  induction h generalizing xs with
  | done => exact (List.map_eq_nil_iff.mp hxs).symm
  | @kept c rest ps hkept hrest ih =>
    obtain ⟨x, ys, rfl, rfl, hys⟩ := List.map_eq_cons_iff.mp hxs
    refine congrArg (x :: ·) (ih ?_ hys)
    rintro ⟨after, hafter, hnext⟩
    exact hnone ⟨after, hafter.trans (List.suffix_cons _ rest), hnext⟩
  | @found w rest groups ps htakes hrest ih =>
    exact absurd ⟨w ++ rest, List.suffix_refl _, w, htakes.words hp, List.prefix_append w rest⟩ hnone

/-- Pieces that are all kept. -/
theorem follow_kept {front : List Traced} (hlength : front.length = u.length) :
    follow (u.map .kept ++ ps) (front ++ xs) = front ++ follow ps xs := by
  induction u generalizing front with
  | nil => rw [List.length_eq_zero_iff.mp hlength]; rfl
  | cons c u ih =>
    cases front with
    | nil => exact nomatch hlength
    | cons x front => exact congrArg (x :: ·) (ih (Nat.succ_inj.mp hlength))

/-- Where no word is next, all is kept. -/
theorem Pattern.Cut.of_not_next (hp : p.isLocal = true) (hnone : ∀ v, v ≠ [] → v <:+ u → ¬ p.Next (v ++ t))
    (h : p.Cut (u ++ t) ps) : ∃ ps', ps = u.map .kept ++ ps' ∧ p.Cut t ps' := by
  induction u generalizing ps with
  | nil => exact ⟨ps, rfl, h⟩
  | cons c u ih =>
    have hfirst := hnone (c :: u) (List.cons_ne_nil _ _) (List.suffix_refl _)
    have hothers : ∀ v, v ≠ [] → v <:+ u → ¬ p.Next (v ++ t) :=
      fun v hne hv => hnone v hne (hv.trans (List.suffix_cons c u))
    generalize htext : c :: u ++ t = text at h
    cases h with
    | done => exact nomatch htext
    | kept hkept hrest =>
      obtain ⟨rfl, rfl⟩ := List.cons.inj htext
      obtain ⟨ps', rfl, hcut⟩ := ih hothers hrest
      exact ⟨ps', rfl, hcut⟩
    | @found w rest groups ps htakes hrest =>
      rw [List.cons_append] at htext
      exact absurd ⟨w, htakes.words hp, rest, htext.symm⟩ hfirst

/-- A placeholder is kept as it is. -/
theorem Pattern.Cut.of_placeholder (hp : IsSecret p)
    (h : p.Cut (Redactor.standardPlaceholder ++ t) ps) :
    ∃ ps', ps = Redactor.standardPlaceholder.map .kept ++ ps' ∧ p.Cut t ps' := by
  refine h.of_not_next hp.isLocal fun v hne hv => ?_
  obtain ⟨front, hfront⟩ := hv
  have hlength : front.length < Redactor.standardPlaceholder.length := by
    rw [← hfront, List.length_append]
    exact Nat.lt_add_of_pos_right (List.length_pos_iff.mpr hne)
  have hdrop := hp.foreign front.length hlength t
  rwa [← hfront, List.drop_left] at hdrop

/-! ## 3. A traced text along the text that it comes from -/

/-- A text laid out: parts of it that are kept, of the kind that `K` tells from their place and what
comes after them, and placeholders for the parts between. -/
inductive Laid (K : Nat → Text → Text → Prop) : Nat → Text → List Traced → Prop where
  | done {n : Nat} : Laid K n [] []
  | kept {n : Nat} {w t : Text} {xs : List Traced} (hw : K n w t) (hne : w ≠ [])
      (hrest : Laid K (n + w.length) t xs) : Laid K n (w ++ t) (mark n w ++ xs)
  | hidden {n : Nat} {m t : Text} {xs : List Traced} (hm : m ≠ [])
      (hrest : Laid K (n + m.length) t xs) : Laid K n (m ++ t) (tracedPlaceholder ++ xs)

/-- Parts of one code point. -/
def Single (_ : Nat) (w _ : Text) : Prop :=
  w.length = 1

namespace Laid

variable {K L : Nat → Text → Text → Prop}

theorem mono (hKL : ∀ n w t, K n w t → L n w t) (h : Laid K n t xs) : Laid L n t xs := by
  induction h with
  | done => exact .done
  | kept hw hne _ ih => exact .kept (hKL _ _ _ hw) hne ih
  | hidden hm _ ih => exact .hidden hm ih

theorem prepend (h : Laid Single (n + u.length) t xs) : Laid Single n (u ++ t) (mark n u ++ xs) := by
  induction u generalizing n with
  | nil => exact h
  | cons c u ih =>
    refine .kept (w := [c]) rfl (List.cons_ne_nil _ _) (ih ?_)
    rwa [List.length_singleton, Nat.add_assoc, Nat.add_comm 1]

/-- What is kept in larger parts is kept in single ones. -/
theorem single (h : Laid K n t xs) : Laid Single n t xs := by
  induction h with
  | done => exact .done
  | kept _ _ _ ih => exact prepend ih
  | hidden hm _ ih => exact .hidden hm ih

theorem of_mark (n : Nat) (t : Text) : Laid Single n t (mark n t) := by
  have h := prepend (n := n) (u := t) .done
  rwa [List.append_nil, List.append_nil] at h

theorem eq_nil (h : Laid K n t []) : t = [] := by
  generalize hxs : ([] : List Traced) = xs at h
  cases h with
  | done => rfl
  | @kept _ w _ _ hw hne _ =>
    have hmark : mark n w = [] := (List.append_eq_nil_iff.mp hxs.symm).1
    rw [← map_fst_mark n w, hmark] at hne
    exact absurd rfl hne
  | hidden hm _ => exact nomatch hxs

/-- What is still there was in a part that is kept. -/
theorem exists_of_survives (h : Laid K n t xs) (hi : Survives i xs) :
    ∃ m w t', K m w t' ∧ m ≤ i ∧ i < m + w.length ∧ n ≤ m := by
  induction h with
  | done =>
    obtain ⟨c, hc⟩ := hi
    exact nomatch hc
  | @kept n w t xs hw _ _ ih =>
    obtain hhere | hlater := survives_append.mp hi
    · obtain ⟨hlow, hhigh⟩ := survives_mark_iff.mp hhere
      exact ⟨n, w, t, hw, hlow, hhigh, Nat.le_refl _⟩
    · obtain ⟨m, v, t', hv, hlow, hhigh, hm⟩ := ih hlater
      exact ⟨m, v, t', hv, hlow, hhigh, Nat.le_trans (Nat.le_add_right _ _) hm⟩
  | @hidden n m t xs _ _ ih =>
    obtain hput | hlater := survives_append.mp hi
    · exact absurd hput not_survives_placeholder
    · obtain ⟨k, v, t', hv, hlow, hhigh, hk⟩ := ih hlater
      exact ⟨k, v, t', hv, hlow, hhigh, Nat.le_trans (Nat.le_add_right _ _) hk⟩

/-! ### Where a match can end -/

/-- Text without brackets at the start of a traced text was kept. -/
theorem drop_of_bracketless (h : Laid Single n t xs) (hxs : xs.map Prod.fst = u ++ rest)
    (hu : ('[' : CodePoint) ∉ u) :
    ∃ t', t = u ++ t' ∧ Laid Single (n + u.length) t' (xs.drop u.length) := by
  induction h generalizing u with
  | @done n =>
    obtain ⟨rfl, -⟩ := List.append_eq_nil_iff.mp hxs.symm
    exact ⟨[], rfl, .done⟩
  | @kept n w t xs hw hne hrest ih =>
    obtain ⟨c, rfl⟩ := List.length_eq_one_iff.mp hw
    cases u with
    | nil => exact ⟨_, rfl, .kept hw hne hrest⟩
    | cons d u =>
      obtain ⟨rfl, hafter⟩ := List.cons.inj hxs
      obtain ⟨t', rfl, hlaid⟩ := ih hafter (fun hmem => hu (List.mem_cons_of_mem _ hmem))
      refine ⟨t', rfl, ?_⟩
      rwa [List.length_cons, Nat.add_comm u.length, ← Nat.add_assoc, Nat.add_comm 1]
  | @hidden n m t xs hm hrest ih =>
    cases u with
    | nil => exact ⟨_, rfl, .hidden hm hrest⟩
    | cons d u =>
      rw [List.map_append, map_fst_tracedPlaceholder, placeholder_cons] at hxs
      exact absurd (List.mem_cons.mpr (Or.inl (List.cons.inj hxs).1)) hu

/-- A text in front of a blank goes over a part that holds no blank behind its start, if it goes
beyond that start. -/
theorem append_of_stop {w after : Text} (hw : ∀ c ∈ w.tail, c.isSpace = false)
    (hstop : ∀ c, rest.head? = some c → c.isSpace = true) (hu : u ≠ [])
    (h : w ++ after = u ++ rest) : ∃ v, u = w ++ v ∧ after = v ++ rest := by
  obtain ⟨v, rfl, hafter⟩ | ⟨v, rfl, rfl⟩ := List.append_eq_append_iff.mp h
  · exact ⟨v, rfl, hafter⟩
  · cases v with
    | nil => exact ⟨[], by simp, rfl⟩
    | cons c v =>
      obtain ⟨d, u, rfl⟩ := List.exists_cons_of_ne_nil hu
      have hc : c.isSpace = false := hw c (by simp)
      rw [hstop c rfl] at hc
      exact nomatch hc

/-- Text in front of a blank ends between parts. -/
theorem drop_of_stop (hK : ∀ n w t, K n w t → ∀ c ∈ w.tail, c.isSpace = false)
    (h : Laid K n t xs) (hxs : xs.map Prod.fst = u ++ rest)
    (hstop : ∀ c, rest.head? = some c → c.isSpace = true) :
    ∃ m t', (u ≠ [] → m ≠ []) ∧ t = m ++ t' ∧ Laid K (n + m.length) t' (xs.drop u.length) := by
  induction h generalizing u with
  | done =>
    obtain ⟨rfl, -⟩ := List.append_eq_nil_iff.mp hxs.symm
    exact ⟨[], [], id, rfl, .done⟩
  | @kept n w t xs hw hne hrest ih =>
    by_cases hu : u = []
    · subst hu
      exact ⟨[], w ++ t, id, rfl, .kept hw hne hrest⟩
    · rw [List.map_append, map_fst_mark] at hxs
      obtain ⟨v, rfl, hafter⟩ := append_of_stop (hK n w t hw) hstop hu hxs
      obtain ⟨m, t', -, rfl, hlaid⟩ := ih hafter
      refine ⟨w ++ m, t', fun _ => List.append_ne_nil_of_left_ne_nil hne m,
        (List.append_assoc _ _ _).symm, ?_⟩
      rw [List.length_append, List.length_append, ← Nat.add_assoc, ← List.drop_drop, drop_mark]
      exact hlaid
  | @hidden n m₁ t xs hm hrest ih =>
    by_cases hu : u = []
    · subst hu
      exact ⟨[], m₁ ++ t, id, rfl, .hidden hm hrest⟩
    · rw [List.map_append, map_fst_tracedPlaceholder] at hxs
      obtain ⟨v, rfl, hafter⟩ := append_of_stop (by decide) hstop hu hxs
      obtain ⟨m, t', -, rfl, hlaid⟩ := ih hafter
      refine ⟨m₁ ++ m, t', fun _ => List.append_ne_nil_of_left_ne_nil hm m,
        (List.append_assoc _ _ _).symm, ?_⟩
      rw [List.length_append, List.length_append, ← Nat.add_assoc, ← List.drop_drop]
      exact hlaid

end Laid

/-! ## 4. What the rules keep -/

/-- What a pattern takes off a traced text between two parts ends between two parts. -/
def EndsBetween (p : Pattern) (K : Nat → Text → Text → Prop) : Prop :=
  ∀ {n : Nat} {t u rest : Text} {xs : List Traced}, Laid K n t xs → p.Takes u rest →
    xs.map Prod.fst = u ++ rest → ∃ m t', m ≠ [] ∧ t = m ++ t' ∧
      Laid K (n + m.length) t' (xs.drop u.length)

/-- **One rule** that takes off whole parts leaves single code points that it does not find. -/
theorem Laid.follow {K : Nat → Text → Text → Prop} (hp : IsSecret p) (hends : EndsBetween p K)
    (hK : ∀ n w t, K n w t → w.length = 1 ∨ p.Words w) (h : Laid K n t xs)
    (hcut : p.Cut (xs.map Prod.fst) ps) :
    Laid (fun n w t => K n w t ∧ w.length = 1 ∧ ¬ p.Words w) n t (follow ps xs) := by
  -- both a word and a placeholder are passed over whole, so the induction is on the length
  induction hlength : xs.length using Nat.strongRecOn generalizing n t xs ps with
  | ind length ih =>
    generalize htext : xs.map Prod.fst = text at hcut
    cases hcut with
    | done =>
      obtain rfl := List.map_eq_nil_iff.mp htext
      rw [h.eq_nil]
      exact .done
    | @found w rest groups ps htakes hrest =>
      have hpos := length_pos_of_words hp.notEmpty (htakes.words hp.isLocal)
      obtain ⟨m, t', hm, rfl, hlaid⟩ := hends h htakes htext
      have htotal : xs.length = w.length + rest.length := by
        rw [← List.length_map Prod.fst, htext, List.length_append]
      refine .hidden hm (ih (xs.drop w.length).length ?_ hlaid ?_ rfl)
      · rw [List.length_drop]
        omega
      · rwa [List.map_drop, htext, List.drop_left]
    | @kept c rest ps hnone hrest =>
      cases h with
      | done => exact nomatch htext
      | @kept n w t xs hw hne hlaid =>
        have hwords : ¬ p.Words w := by
          intro hword
          refine hnone ⟨w, hword, xs.map Prod.fst, ?_⟩
          rw [← htext, List.map_append, map_fst_mark]
        have hsingle := (hK n w t hw).resolve_right hwords
        obtain ⟨d, rfl⟩ := List.length_eq_one_iff.mp hsingle
        obtain ⟨-, rfl⟩ := List.cons.inj htext
        refine .kept (w := [d]) ⟨hw, hsingle, hwords⟩ hne (ih xs.length ?_ hlaid hrest rfl)
        rw [← hlength]
        exact Nat.lt_succ_self _
      | @hidden n m t xs hm hlaid =>
        -- no word of a rule starts in a placeholder, so all of its pieces are kept
        rw [List.map_append, map_fst_tracedPlaceholder] at htext
        have hwhole : p.Cut (Redactor.standardPlaceholder ++ xs.map Prod.fst) (.kept c :: ps) := by
          rw [htext]
          exact .kept hnone hrest
        obtain ⟨ps', hps, hcut'⟩ := Cut.of_placeholder hp hwhole
        have hfront : tracedPlaceholder.length = Redactor.standardPlaceholder.length :=
          List.length_map _
        rw [hps, follow_kept hfront]
        refine .hidden hm (ih xs.length ?_ hlaid hcut' rfl)
        rw [← hlength, List.length_append]
        exact Nat.lt_add_of_pos_left (by decide)

theorem endsBetween_single (hp : IsSecret p) (hrule : IsBracketless p ∨ RunsOn p) :
    EndsBetween p Single := by
  intro n t u rest xs h htakes hxs
  have hwords := htakes.words hp.isLocal
  have hne : u ≠ [] := by
    rintro rfl
    exact hp.notEmpty hwords
  obtain hbracket | hstop := hrule
  · obtain ⟨t', rfl, hlaid⟩ := h.drop_of_bracketless hxs (hbracket u hwords)
    exact ⟨u, t', hne, rfl, hlaid⟩
  · have htail : ∀ n w t, Single n w t → ∀ c ∈ w.tail, c.isSpace = false := by
      intro n w t hw c hc
      obtain ⟨d, rfl⟩ := List.length_eq_one_iff.mp hw
      exact nomatch hc
    obtain ⟨m, t', hm, rfl, hlaid⟩ := h.drop_of_stop htail hxs (hstop u rest htakes)
    exact ⟨m, t', hm hne, rfl, hlaid⟩

theorem laid_traced {rule : SecretRule} (hrule : rule ∈ standardRules) (h : Laid Single n t xs) :
    Laid Single n t (rule.traced xs) :=
  (h.follow (isSecret_of_standard hrule)
    (endsBetween_single (isSecret_of_standard hrule) (isBracketless_or_runsOn hrule))
    (fun _ _ _ hw => Or.inl hw) (SecretRule.cut_pieces hrule _)).mono fun _ _ _ hw => hw.1

/-- Rules that find nothing leave everything. -/
theorem trace_of_not_occurs {rules : List SecretRule} (hrules : rules ⊆ standardRules)
    (hnone : ∀ rule ∈ rules, ¬ rule.pattern.Occurs t) : trace rules t = mark 0 t := by
  rw [trace]
  induction rules with
  | nil => rfl
  | cons rule rules ih =>
    obtain ⟨hrule, hrest⟩ := List.cons_subset.mp hrules
    obtain ⟨hfirst, hothers⟩ := List.forall_mem_cons.mp hnone
    have hkeeps : rule.traced (mark 0 t) = mark 0 t := by
      refine follow_eq_self (SecretRule.cut_pieces hrule _) (isLocal_of_standard rule hrule) ?_ rfl
      rwa [map_fst_mark]
    rw [tracedBy, List.foldl_cons, hkeeps]
    exact ih hrest hothers

theorem laid_tracedBy {rules : List SecretRule} (hrules : rules ⊆ standardRules)
    (h : Laid Single n t xs) : Laid Single n t (tracedBy rules xs) := by
  induction rules generalizing xs with
  | nil => exact h
  | cons rule rules ih =>
    obtain ⟨hrule, hrest⟩ := List.cons_subset.mp hrules
    exact ih hrest (laid_traced hrule h)

theorem map_fst_tracedBy {rules : List SecretRule} (hrules : rules ⊆ standardRules) :
    (tracedBy rules xs).map Prod.fst = veiledBy rules (xs.map Prod.fst) := by
  induction rules generalizing xs with
  | nil => rfl
  | cons rule rules ih =>
    obtain ⟨hrule, hrest⟩ := List.cons_subset.mp hrules
    have hfirst : (rule.traced xs).map Prod.fst = rule.veiled (xs.map Prod.fst) :=
      map_fst_follow (SecretRule.cut_pieces hrule _) rfl
    rw [veiledBy_cons, ← hfirst]
    exact ih hrest

/-- **A traced text** is laid out along the text from which it comes. -/
theorem laid_trace {rules : List SecretRule} (hrules : rules ⊆ standardRules) (t : Text) :
    Laid Single 0 t (trace rules t) :=
  laid_tracedBy hrules (.of_mark 0 t)

/-- **A traced text** is the redacted one, with places. -/
theorem map_fst_trace {rules : List SecretRule} (hrules : rules ⊆ standardRules) (t : Text) :
    (trace rules t).map Prod.fst = veiledBy rules t := by
  rw [trace, map_fst_tracedBy hrules, map_fst_mark]

end LintMend
