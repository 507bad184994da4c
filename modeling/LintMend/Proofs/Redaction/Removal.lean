/-
LintMend.Proofs.Redaction.Removal — what becomes of the matches that a rule has on the first text.

A rule does not see the first text but what the earlier rules left of it. Where these left each of
its matches whole, or took it away whole, the rule finds what it would have found: a rule that avoids
brackets takes just the matches that are left, since it cannot see past a placeholder, and a rule
that runs on up to a blank takes whole matches at least, if they hold no blank. So nothing of them
stays. Where an earlier rule took a part of a match, the other part can stay.

  `spansFrom`, `spans`   — the matches of a rule on a text, by their places
  `Undivided`            — matches that are left whole or gone
  `Ahead`, `Laid.refine` — what is left of a text, told by the matches on it
  `not_survives_follow`  — a rule takes whole matches
  `redacted_hides`       — all rules together
-/
import LintMend.Proofs.Pattern.Barrier
import LintMend.Proofs.Redaction.Trace

namespace LintMend

open Pattern SecretRule

variable {p : Pattern} {t : Text} {ps : List Piece} {xs : List Traced} {n i : Nat}

/-! ## 1. Matches by their places -/

/-- The matches among the pieces of a text, from where to where. -/
def spansFrom : Nat → List Piece → List (Nat × Nat)
  | _, [] => []
  | n, .kept _ :: ps => spansFrom (n + 1) ps
  | n, .found w _ :: ps => (n, n + w.length) :: spansFrom (n + w.length) ps

/-- The matches of a rule on a text, from where to where. -/
def SecretRule.spans (rule : SecretRule) (t : Text) : List (Nat × Nat) :=
  spansFrom 0 (rule.pattern.pieces t)

/-- Each of some matches is left whole, or nothing of it is left. -/
def Undivided (spans : List (Nat × Nat)) (xs : List Traced) : Prop :=
  ∀ span ∈ spans, (∀ i, span.1 ≤ i → i < span.2 → Survives i xs) ∨
    ∀ i, span.1 ≤ i → i < span.2 → ¬ Survives i xs

/-- A place within one of some matches. -/
def Within (spans : List (Nat × Nat)) (i : Nat) : Prop :=
  ∃ span ∈ spans, span.1 ≤ i ∧ i < span.2

theorem le_of_mem_spansFrom {span : Nat × Nat} (h : span ∈ spansFrom n ps) : n ≤ span.1 := by
  induction ps generalizing n with
  | nil => exact nomatch h
  | cons piece ps ih =>
    cases piece with
    | kept c => exact Nat.le_of_succ_le (ih h)
    | found w groups =>
      obtain rfl | h := List.mem_cons.mp h
      · exact Nat.le_refl n
      · exact Nat.le_trans (Nat.le_add_right _ _) (ih h)

/-! ## 2. What is left of the matches -/

/-- A text from a place on: places outside of all matches, matches that are left whole, and places
that are gone. -/
inductive Ahead (p : Pattern) (Q : Text → Prop) (S alive : Nat → Prop) : Nat → Text → Prop where
  | done {n : Nat} : Ahead p Q S alive n []
  | gap {n : Nat} {c : CodePoint} {t : Text} (hfree : ¬ S n) (hnone : ¬ p.Next (c :: t))
      (hrest : Ahead p Q S alive (n + 1) t) : Ahead p Q S alive n (c :: t)
  | left {n : Nat} {w t : Text} (htakes : p.Takes w t) (hw : Q w)
      (halive : ∀ i, n ≤ i → i < n + w.length → alive i)
      (hrest : Ahead p Q S alive (n + w.length) t) : Ahead p Q S alive n (w ++ t)
  | gone {n : Nat} {c : CodePoint} {t : Text} (hgone : ¬ alive n)
      (hrest : Ahead p Q S alive (n + 1) t) : Ahead p Q S alive n (c :: t)

namespace Ahead

variable {Q : Text → Prop} {S alive : Nat → Prop} {w : Text}

theorem append_of_gone (hgone : ∀ i, n ≤ i → i < n + w.length → ¬ alive i)
    (h : Ahead p Q S alive (n + w.length) t) : Ahead p Q S alive n (w ++ t) := by
  induction w generalizing n with
  | nil => exact h
  | cons c w ih =>
    rw [List.length_cons] at hgone h
    refine .gone (hgone n (Nat.le_refl n) (by omega))
      (ih (fun i hlow hhigh => hgone i (by omega) (by omega)) ?_)
    rwa [Nat.add_assoc, Nat.add_comm 1]

/-- Places that are gone can be gone over. -/
theorem of_append (hempty : ¬ p.Words []) (hp : p.isLocal = true)
    (hgone : ∀ i, n ≤ i → i < n + w.length → ¬ alive i) (h : Ahead p Q S alive n (w ++ t)) :
    Ahead p Q S alive (n + w.length) t := by
  induction w generalizing n with
  | nil => exact h
  | cons c w ih =>
    rw [List.length_cons] at hgone ⊢
    have hnext : Ahead p Q S alive (n + 1) (w ++ t) := by
      generalize htext : c :: w ++ t = text at h
      cases h with
      | done => exact nomatch htext
      | gap _ _ hrest =>
        obtain ⟨rfl, rfl⟩ := List.cons.inj htext
        exact hrest
      | gone _ hrest =>
        obtain ⟨rfl, rfl⟩ := List.cons.inj htext
        exact hrest
      | left htakes _ halive _ =>
        have hpos := length_pos_of_words hempty (htakes.words hp)
        exact absurd (halive n (Nat.le_refl n) (by omega)) (hgone n (Nat.le_refl n) (by omega))
    have hrest := ih (fun i hlow hhigh => hgone i (by omega) (by omega)) hnext
    rwa [Nat.add_assoc, Nat.add_comm 1] at hrest

/-- A text whose matches are left whole or gone. -/
theorem of_cut (h : p.Cut t ps) (hQ : ∀ w groups, .found w groups ∈ ps → Q w)
    (hS : ∀ i, n ≤ i → S i → Within (spansFrom n ps) i) (hwhole : Undivided (spansFrom n ps) xs) :
    Ahead p Q S (Survives · xs) n t := by
  induction h generalizing n with
  | done => exact .done
  | @kept c rest ps hnone hrest ih =>
    refine .gap (fun hn => ?_) hnone (ih (fun w groups hw => hQ w groups (List.mem_cons_of_mem _ hw))
      (fun i hi => hS i (Nat.le_of_succ_le hi)) hwhole)
    obtain ⟨span, hspan, hlow, -⟩ := hS n (Nat.le_refl n) hn
    have hstart : n + 1 ≤ span.1 := le_of_mem_spansFrom hspan
    exact absurd (Nat.le_trans hstart hlow) (Nat.not_succ_le_self n)
  | @found w rest groups ps htakes hrest ih =>
    obtain ⟨hfirst, hothers⟩ := List.forall_mem_cons.mp hwhole
    have hlater : Ahead p Q S (Survives · xs) (n + w.length) rest := by
      refine ih (fun w groups hw => hQ w groups (List.mem_cons_of_mem _ hw)) (fun i hi hs => ?_) hothers
      obtain ⟨span, hspan, hlow, hhigh⟩ := hS i (Nat.le_trans (Nat.le_add_right _ _) hi) hs
      obtain rfl | hspan := List.mem_cons.mp hspan
      · exact absurd hhigh (Nat.not_lt_of_le hi)
      · exact ⟨span, hspan, hlow, hhigh⟩
    obtain halive | hgone := hfirst
    · exact .left htakes (hQ w groups List.mem_cons_self) halive hlater
    · exact append_of_gone hgone hlater

end Ahead

/-! ## 3. The layout, told by the matches -/

/-- A place outside of all matches, or a match. -/
def Left (p : Pattern) (Q : Text → Prop) (S : Nat → Prop) (n : Nat) (w t : Text) : Prop :=
  (w.length = 1 ∧ ¬ S n ∧ ¬ p.Next (w ++ t)) ∨ (p.Takes w t ∧ Q w)

namespace Laid

variable {K : Nat → Text → Text → Prop} {Q : Text → Prop} {S alive : Nat → Prop} {w : Text}

/-- What comes later is from a later place. -/
theorem le_of_survives (h : Laid K n t xs) (hi : Survives i xs) : n ≤ i := by
  obtain ⟨m, w, t', -, hlow, -, hm⟩ := h.exists_of_survives hi
  exact Nat.le_trans hm hlow

/-- Text that is left whole stands in one piece. -/
theorem exists_of_alive (h : Laid Single n (w ++ t) xs)
    (halive : ∀ i, n ≤ i → i < n + w.length → Survives i xs) :
    ∃ ys, xs = mark n w ++ ys ∧ Laid Single (n + w.length) t ys := by
  induction w generalizing n xs with
  | nil => exact ⟨xs, rfl, h⟩
  | cons c w ih =>
    rw [List.length_cons] at halive ⊢
    have hfirst := halive n (Nat.le_refl n) (by omega)
    generalize htext : c :: w ++ t = text at h
    cases h with
    | done => exact nomatch htext
    | @kept n v t' ys hv hne hrest =>
      obtain ⟨d, rfl⟩ := List.length_eq_one_iff.mp hv
      obtain ⟨rfl, rfl⟩ := List.cons.inj htext
      obtain ⟨zs, rfl, hlaid⟩ := ih hrest fun i hlow hhigh => by
        rw [List.length_singleton] at hlow hhigh
        obtain hhere | hlater := survives_append.mp (halive i (by omega) (by omega))
        · have hi := (survives_mark_iff.mp hhere).2
          rw [List.length_singleton] at hi
          omega
        · exact hlater
      refine ⟨zs, rfl, ?_⟩
      rwa [List.length_singleton, Nat.add_assoc, Nat.add_comm 1] at hlaid
    | @hidden n m t' ys hm hrest =>
      obtain hput | hlater := survives_append.mp hfirst
      · exact absurd hput not_survives_placeholder
      · have hle := hrest.le_of_survives hlater
        have hpos := List.length_pos_iff.mpr hm
        omega

/-- **What is left of a text** is left in matches and in places outside of them. -/
theorem refine (hp : IsSecret p) (h : Laid Single n t xs) (hahead : Ahead p Q S alive n t)
    (halive : ∀ i, n ≤ i → (alive i ↔ Survives i xs)) : Laid (Left p Q S) n t xs := by
  -- what the rule finds is passed over whole, so the induction is on the length of what is left
  induction hlength : t.length using Nat.strongRecOn generalizing n t xs with
  | ind length ih =>
    cases h with
    | done => exact .done
    | @kept n v t ys hv hne hrest =>
      obtain ⟨c, rfl⟩ := List.length_eq_one_iff.mp hv
      have hn : alive n := (halive n (Nat.le_refl n)).mpr
        (survives_append.mpr (Or.inl (survives_mark_iff.mpr ⟨Nat.le_refl n, Nat.lt_succ_self n⟩)))
      have hlaid : Laid Single n ([c] ++ t) (mark n [c] ++ ys) := .kept hv hne hrest
      have hlater : ∀ {v : Text} {zs : List Traced}, mark n [c] ++ ys = mark n v ++ zs →
          ∀ i, n + v.length ≤ i → (alive i ↔ Survives i zs) := by
        intro v zs hsame i hi
        rw [halive i (Nat.le_trans (Nat.le_add_right _ _) hi), hsame, survives_append,
          survives_mark_iff]
        exact or_iff_right fun hhere => Nat.not_lt_of_le hi hhere.2
      -- a kept code point: the rule finds nothing here, or a word of which all is alive
      generalize htext : [c] ++ t = text at hahead hlaid hlength ⊢
      cases hahead with
      | done => exact nomatch htext
      | gap hfree hnone hahead =>
        obtain ⟨rfl, rfl⟩ := List.cons.inj htext
        exact .kept (w := [c]) (Or.inl ⟨rfl, hfree, hnone⟩) hne
          (ih t.length (hlength ▸ Nat.lt_succ_self _) hrest hahead (hlater rfl) rfl)
      | gone hgone hahead => exact absurd hn hgone
      | @left _ w t' htakes hw hleft hahead =>
        have hpos := length_pos_of_words hp.notEmpty (htakes.words hp.isLocal)
        obtain ⟨zs, hsame, hrest'⟩ := hlaid.exists_of_alive fun i hlow hhigh =>
          (halive i hlow).mp (hleft i hlow hhigh)
        rw [hsame]
        refine .kept (Or.inr ⟨htakes, hw⟩) (List.length_pos_iff.mp hpos)
          (ih t'.length ?_ hrest' hahead (hlater hsame) rfl)
        rw [← hlength, List.length_append]
        exact Nat.lt_add_of_pos_left hpos
    -- a placeholder: nothing behind it is alive, so no word of the rule reaches into it
    | @hidden n m t ys hm hrest =>
      have hput : ∀ i, Survives i (tracedPlaceholder ++ ys) ↔ Survives i ys := fun i =>
        survives_append.trans (or_iff_right not_survives_placeholder)
      have hgone : ∀ i, n ≤ i → i < n + m.length → ¬ alive i := by
        intro i hlow hhigh hi
        have hsurvives := (hput i).mp ((halive i hlow).mp hi)
        exact Nat.not_lt_of_le (hrest.le_of_survives hsurvives) hhigh
      refine .hidden hm (ih t.length ?_ hrest (hahead.of_append hp.notEmpty hp.isLocal hgone)
        (fun i hi => ?_) rfl)
      · rw [← hlength, List.length_append]
        exact Nat.lt_add_of_pos_left (List.length_pos_iff.mpr hm)
      · exact (halive i (Nat.le_trans (Nat.le_add_right _ _) hi)).trans (hput i)

/-- A traced text agrees with the one from which it comes up to the first placeholder. -/
theorem exists_barrier (h : Laid K n t xs) : ∃ y z r, t = y ++ z ∧ xs.map Prod.fst = y ++ r ∧
    ∀ c, r.head? = some c → c = '[' := by
  induction h with
  | done => exact ⟨[], [], [], rfl, rfl, fun c hc => nomatch hc⟩
  | @kept n w t xs hw hne hrest ih =>
    obtain ⟨y, z, r, rfl, hmap, hr⟩ := ih
    refine ⟨w ++ y, z, r, (List.append_assoc _ _ _).symm, ?_, hr⟩
    rw [List.map_append, map_fst_mark, hmap, List.append_assoc]
  | @hidden n m t xs hm hrest ih =>
    refine ⟨[], m ++ t, Redactor.standardPlaceholder ++ xs.map Prod.fst, rfl, ?_, fun c hc => ?_⟩
    · rw [List.map_append, map_fst_tracedPlaceholder, List.nil_append]
    · rw [placeholder_cons] at hc
      exact (Option.some.inj hc).symm

end Laid

section

variable {Q : Text → Prop} {S : Nat → Prop}

/-- A rule that avoids brackets takes the matches that are left. -/
theorem endsBetween_of_avoids (hp : IsSecret p) (havoids : p.avoids '[' = true) :
    EndsBetween p (Left p Q S) := by
  intro n t u rest xs h htakes hxs
  have hwords := htakes.words hp.isLocal
  have hne : u ≠ [] := by
    rintro rfl
    exact hp.notEmpty hwords
  have hbracket : ('[' : CodePoint) ∉ u := not_mem_of_avoids havoids hwords
  obtain ⟨after, hafter, -⟩ := h.single.drop_of_bracketless hxs hbracket
  cases h with
  | done =>
    obtain ⟨rfl, -⟩ := List.append_eq_nil_iff.mp hxs.symm
    exact absurd rfl hne
  | @kept n w t xs hw hne' hrest =>
    obtain ⟨-, -, hnone⟩ | ⟨hleft, -⟩ := hw
    · exact absurd ⟨u, hwords, after, hafter.symm⟩ hnone
    · obtain ⟨y, z, r, rfl, hmap, hr⟩ := hrest.exists_barrier
      rw [List.map_append, map_fst_mark, hmap] at hxs
      obtain rfl : u = w := hleft.eq_of_barrier hp.isLocal
        (fun c hc => by rw [hr c hc]; exact havoids) htakes hxs.symm
      refine ⟨u, y ++ z, hne, rfl, ?_⟩
      rwa [drop_mark]
  | @hidden n m t xs hm hrest =>
    obtain ⟨c, u, rfl⟩ := List.exists_cons_of_ne_nil hne
    rw [List.map_append, map_fst_tracedPlaceholder, placeholder_cons] at hxs
    exact absurd (List.mem_cons.mpr (Or.inl (List.cons.inj hxs).1)) hbracket

/-- A rule that runs on up to a blank takes whole matches, if these hold no blank. -/
theorem endsBetween_of_runsOn (hp : IsSecret p) (hruns : RunsOn p)
    (hQ : ∀ w, Q w → ∀ c ∈ w, c.isSpace = false) : EndsBetween p (Left p Q S) := by
  intro n t u rest xs h htakes hxs
  have htail : ∀ n w t, Left p Q S n w t → ∀ c ∈ w.tail, c.isSpace = false := by
    rintro n w t (⟨hsingle, -⟩ | ⟨-, hw⟩) c hc
    · obtain ⟨d, rfl⟩ := List.length_eq_one_iff.mp hsingle
      exact nomatch hc
    · exact hQ w hw c (List.mem_of_mem_tail hc)
  obtain ⟨m, t', hm, rfl, hlaid⟩ := h.drop_of_stop htail hxs (hruns u rest htakes)
  refine ⟨m, t', hm ?_, rfl, hlaid⟩
  rintro rfl
  exact hp.notEmpty (htakes.words hp.isLocal)

/-- What a rule does not take away of a text lies outside of all matches on it. -/
theorem not_survives_follow (hp : IsSecret p) (hends : EndsBetween p (Left p Q S))
    (hlaid : Laid Single n t xs) (hahead : Ahead p Q S (Survives · xs) n t)
    (hcut : p.Cut (xs.map Prod.fst) ps) (hi : S i) : ¬ Survives i (follow ps xs) := by
  intro hsurvives
  have hleft : Laid (Left p Q S) n t xs := hlaid.refine hp hahead fun i _ => Iff.rfl
  have hafter := hleft.follow hp hends
    (fun n w t hw => hw.imp And.left fun h => h.1.words hp.isLocal) hcut
  obtain ⟨m, w, t', ⟨hw, hsingle, hnone⟩, hlow, hhigh, -⟩ := hafter.exists_of_survives hsurvives
  obtain rfl : m = i := by omega
  obtain ⟨-, hfree, -⟩ | ⟨htakes, -⟩ := hw
  · exact hfree hi
  · exact hnone (htakes.words hp.isLocal)

end

/-! ## 4. All rules together -/

/-- Pieces whose matches hold no blank. -/
def Unbroken (ps : List Piece) : Prop :=
  ∀ w groups, .found w groups ∈ ps → ∀ c ∈ w, c.isSpace = false

theorem unbroken_of_avoids {rule : SecretRule} (hrule : rule ∈ standardRules)
    (havoids : ∀ c ∈ blanks, rule.pattern.avoids c = true) : Unbroken (rule.pattern.pieces t) := by
  intro w groups hw c hc
  refine Bool.eq_false_iff.mpr fun hspace => ?_
  exact not_mem_of_avoids (havoids c (mem_blanks hspace)) (words_of_found hrule hw) hc

/-- The rules that do not avoid brackets run on up to a blank, and their matches hold none, but for
connections to databases. -/
theorem avoids_or_unbroken {rule : SecretRule} (hrule : rule ∈ standardRules)
    (hdatabase : rule = databaseConnection → Unbroken (rule.pattern.pieces t)) :
    rule.pattern.avoids '[' = true ∨ RunsOn rule.pattern ∧ Unbroken (rule.pattern.pieces t) := by
  obtain havoids | rfl | rfl | rfl := avoids_or_eq rule hrule
  · exact Or.inl havoids
  · exact Or.inr ⟨runsOn_repositoryPassword, unbroken_of_avoids hrule (by decide +kernel)⟩
  · exact Or.inr ⟨runsOn_databaseConnection, hdatabase rfl⟩
  · exact Or.inr ⟨runsOn_addressCredentials, unbroken_of_avoids hrule (by decide +kernel)⟩

/-- **A rule takes away what is left of its matches**, if each of them is left whole or gone. -/
theorem not_survives_traced {rule : SecretRule} (hrule : rule ∈ standardRules)
    (hlaid : Laid Single 0 t xs) (hwhole : Undivided (rule.spans t) xs)
    (hdatabase : rule = databaseConnection → Unbroken (rule.pattern.pieces t))
    (hi : Within (rule.spans t) i) : ¬ Survives i (rule.traced xs) := by
  have hsecret := isSecret_of_standard hrule
  have hcut := SecretRule.cut_pieces hrule t
  obtain havoids | ⟨hruns, hunbroken⟩ := avoids_or_unbroken hrule hdatabase
  · have hahead : Ahead rule.pattern (fun _ => True) (Within (rule.spans t)) (Survives · xs) 0 t :=
      .of_cut hcut (fun _ _ _ => trivial) (fun _ _ hi => hi) hwhole
    exact not_survives_follow hsecret (endsBetween_of_avoids hsecret havoids) hlaid hahead
      (SecretRule.cut_pieces hrule _) hi
  · have hahead : Ahead rule.pattern (fun w => ∀ c ∈ w, c.isSpace = false) (Within (rule.spans t))
        (Survives · xs) 0 t :=
      .of_cut hcut hunbroken (fun _ _ hi => hi) hwhole
    exact not_survives_follow hsecret (endsBetween_of_runsOn hsecret hruns fun _ h => h) hlaid hahead
      (SecretRule.cut_pieces hrule _) hi

/-- A rule takes away all of its matches on a text that is still whole. -/
theorem not_within_of_follow_mark (h : p.Cut t ps) (hi : Survives i (follow ps (mark n t))) :
    ¬ Within (spansFrom n ps) i := by
  induction h generalizing n with
  | done =>
    obtain ⟨c, hc⟩ := hi
    exact nomatch hc
  | @kept c rest ps hnone hrest ih =>
    obtain hhere | hlater := survives_append.mp hi
    · rintro ⟨span, hspan, hlow, -⟩
      have hstart : n + 1 ≤ span.1 := le_of_mem_spansFrom hspan
      have hend := (survives_mark_iff (t := [c]).mp hhere).2
      rw [List.length_singleton] at hend
      omega
    · exact ih hlater
  | @found w rest groups ps htakes hrest ih =>
    obtain hput | hlater := survives_append.mp hi
    · exact absurd hput not_survives_placeholder
    · rw [mark_append, drop_mark] at hlater
      have hstart := (survives_mark_iff.mp (survives_of_follow hlater)).1
      rintro ⟨span, hspan, hlow, hhigh⟩
      obtain rfl | hspan := List.mem_cons.mp hspan
      · exact absurd hhigh (Nat.not_lt_of_le hstart)
      · exact ih hlater ⟨span, hspan, hlow, hhigh⟩

/-- Rules by plain recursions, with places. -/
theorem trace_eq_scan {rules : List SecretRule} (hrules : rules ⊆ standardRules) (t : Text) :
    trace rules t = rules.foldl (fun xs rule =>
      follow (rule.pattern.scan ((xs.map Prod.fst).length + 1) ⟨[], xs.map Prod.fst, []⟩) xs)
        (mark 0 t) := by
  rw [trace]
  generalize mark 0 t = xs
  induction rules generalizing xs with
  | nil => rfl
  | cons rule rules ih =>
    obtain ⟨hrule, hrest⟩ := List.cons_subset.mp hrules
    rw [List.foldl_cons, ← SecretRule.pieces_eq_scan hrule]
    exact ih hrest _

theorem survives_iff_mem : Survives i xs ↔ some i ∈ xs.map Prod.snd := by
  simp [Survives]

instance : Decidable (Survives i xs) :=
  decidable_of_iff _ survives_iff_mem.symm

instance {spans : List (Nat × Nat)} : Decidable (Undivided spans xs) :=
  inferInstanceAs (Decidable (∀ span ∈ spans, _ ∨ _))

instance {spans : List (Nat × Nat)} : Decidable (Within spans i) :=
  inferInstanceAs (Decidable (∃ span ∈ spans, _ ∧ _))

/-- **Redaction hides what the rules find on the text itself**, unless a match was divided before.
The redacted text is laid out along the first one, with placeholders for what is hidden. A match
that a rule has on the first text is gone in the end if the earlier rules find nothing there. It is
gone as well if they have left each of the matches of that rule whole or taken it away whole; where
the rule looks for connections to databases, its matches also have to hold no blank. -/
theorem redacted_hides (t : Text) :
    Redactor.standard.redact t = .ok ((trace standardRules t).map Prod.fst) ∧
      Laid Single 0 t (trace standardRules t) ∧
      ∀ before rule after, standardRules = before ++ rule :: after →
        ((∀ earlier ∈ before, earlier.pattern.matchesSomewhere t = false) ∨
          Undivided (rule.spans t) (trace before t) ∧
            (rule = databaseConnection → Unbroken (rule.pattern.pieces t))) →
        ∀ i, Within (rule.spans t) i → ¬ Survives i (trace standardRules t) := by
  refine ⟨?_, laid_trace (List.Subset.refl _) t, ?_⟩
  · rw [redact_standard, redacted_eq_foldl, map_fst_trace (List.Subset.refl _)]
  · intro before rule after hrules hearlier i hi hsurvives
    have hbefore : before ⊆ standardRules := by
      rw [hrules]
      exact List.subset_append_left _ _
    have hrule : rule ∈ standardRules := by
      rw [hrules]
      exact List.mem_append_right _ List.mem_cons_self
    have hafter : trace standardRules t = tracedBy after (rule.traced (trace before t)) := by
      rw [hrules, trace_append]
      rfl
    have hthen : Survives i (rule.traced (trace before t)) :=
      survives_of_tracedBy (hafter ▸ hsurvives)
    -- the earlier rules found nothing, so the rule sees the text itself; or they left its words whole
    obtain hnone | ⟨hwhole, hdatabase⟩ := hearlier
    · have hmark : trace before t = mark 0 t := by
        refine trace_of_not_occurs hbefore fun earlier hearlier hoccurs => ?_
        have hlocal := isLocal_of_standard earlier (hbefore hearlier)
        have hmatch := (matchesSomewhere_iff hlocal).mpr hoccurs
        rw [hnone earlier hearlier] at hmatch
        exact nomatch hmatch
      rw [hmark, SecretRule.traced, map_fst_mark] at hthen
      exact not_within_of_follow_mark (SecretRule.cut_pieces hrule t) hthen hi
    · exact not_survives_traced hrule (laid_trace hbefore t) hwhole hdatabase hi hthen

/-- A connection to a database behind a token. -/
theorem redacted_hides_connection :
    standardRules = standardRules.take 5 ++ databaseConnection :: standardRules.drop 6 ∧
      Undivided (databaseConnection.spans "token=aaaaaaaaaaaaaaaa redis://u:p@h")
        (trace (standardRules.take 5) "token=aaaaaaaaaaaaaaaa redis://u:p@h") ∧
      Unbroken (databaseConnection.pattern.pieces "token=aaaaaaaaaaaaaaaa redis://u:p@h") ∧
      Within (databaseConnection.spans "token=aaaaaaaaaaaaaaaa redis://u:p@h") 33 ∧
      ¬ Survives 33 (trace standardRules "token=aaaaaaaaaaaaaaaa redis://u:p@h") := by
  have hrules : standardRules = standardRules.take 5 ++ databaseConnection :: standardRules.drop 6 :=
    rfl
  have hspans : databaseConnection.spans "token=aaaaaaaaaaaaaaaa redis://u:p@h" = [(23, 36)] := by
    rw [SecretRule.spans, SecretRule.pieces_eq_scan database_mem]
    decide +kernel
  have hwhole : Undivided (databaseConnection.spans "token=aaaaaaaaaaaaaaaa redis://u:p@h")
      (trace (standardRules.take 5) "token=aaaaaaaaaaaaaaaa redis://u:p@h") := by
    rw [hspans, trace_eq_scan (List.take_subset 5 _)]
    decide +kernel
  have hunbroken : Unbroken
      (databaseConnection.pattern.pieces "token=aaaaaaaaaaaaaaaa redis://u:p@h") := by
    have hpieces : databaseConnection.pattern.pieces "token=aaaaaaaaaaaaaaaa redis://u:p@h" =
        List.map Piece.kept ("token=aaaaaaaaaaaaaaaa " : Text) ++
          [.found "redis://u:p@h" [(1, "redis")]] := by
      rw [SecretRule.pieces_eq_scan database_mem]
      decide +kernel
    intro w groups hw
    rw [hpieces] at hw
    obtain hkept | hfound := List.mem_append.mp hw
    · obtain ⟨c, -, hc⟩ := List.mem_map.mp hkept
      cases hc
    · cases List.mem_singleton.mp hfound
      decide
  have hwithin : Within (databaseConnection.spans "token=aaaaaaaaaaaaaaaa redis://u:p@h") 33 := by
    rw [hspans]
    decide
  obtain ⟨-, -, hhides⟩ := redacted_hides "token=aaaaaaaaaaaaaaaa redis://u:p@h"
  exact ⟨hrules, hwhole, hunbroken, hwithin,
    hhides _ _ _ hrules (Or.inr ⟨hwhole, fun _ => hunbroken⟩) 33 hwithin⟩

/-- A match can be divided: of a password on the command line the last part stays, since a rule that
comes first takes the name of the parameter away. -/
theorem redacted_leaves_password :
    ¬ ∀ t, ∀ rule ∈ standardRules, ∀ i, Within (rule.spans t) i →
      ¬ Survives i (trace standardRules t) := by
  intro h
  have hrule : repositoryPassword ∈ standardRules :=
    List.mem_of_getElem? (show standardRules[1]? = some repositoryPassword from rfl)
  have hwithin : Within (repositoryPassword.spans "-PnexusPassword=NotARealPassword!2024") 32 := by
    rw [SecretRule.spans, SecretRule.pieces_eq_scan hrule]
    decide +kernel
  have hsurvives : Survives 32 (trace standardRules "-PnexusPassword=NotARealPassword!2024") := by
    rw [trace_eq_scan (List.Subset.refl _)]
    decide +kernel
  exact h _ repositoryPassword hrule 32 hwithin hsurvives

end LintMend
