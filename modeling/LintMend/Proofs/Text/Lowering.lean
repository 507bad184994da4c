/-
LintMend.Proofs.Text.Lowering — which texts have a given text in small letters.

Small letters are found in a table that goes far beyond the basic Latin block, and two of its
capitals lead back into that block: the Kelvin sign has the small letter `k`, the dotted capital I
turns into `i` and a dot above. A text without these two letters is the small form of just the
texts that differ from it in the letters A to Z.

  `IsPlain`                    — code points of the basic Latin block but `k` and `i`
  `toLower_eq_iff`             — plain text in small letters
  `toLower_eq_iff_of_caseless` — text that has no letters
-/
import LintMend.Text.Case

namespace LintMend

namespace CodePoint

/-- A code point of the basic Latin block that no code point beyond it has as its small letter. -/
def IsPlain (c : CodePoint) : Prop :=
  c.val < 0x80 ∧ c ≠ 'k' ∧ c ≠ 'i'

instance (c : CodePoint) : Decidable c.IsPlain :=
  inferInstanceAs (Decidable (_ ∧ _ ∧ _))

/-- One of the digits, points and colons that numeric addresses are written with. -/
def IsCaseless (c : CodePoint) : Prop :=
  0x2E ≤ c.val ∧ c.val ≤ 0x3A

instance (c : CodePoint) : Decidable c.IsCaseless :=
  inferInstanceAs (Decidable (_ ∧ _))

theorem IsCaseless.isPlain {c : CodePoint} (h : c.IsCaseless) : c.IsPlain := by
  have hne : ∀ d : CodePoint, 0x3A < d.val → c ≠ d := by
    intro d hd hcd
    rw [hcd] at h
    exact Nat.lt_irrefl _ (Nat.lt_of_lt_of_le hd h.2)
  exact ⟨Nat.lt_of_le_of_lt h.2 (by decide), hne _ (by decide), hne _ (by decide)⟩

/-! ## 1. One code point -/

/-- A run of the table stays beyond the basic Latin block, or is the Kelvin sign alone. -/
theorem lowerRuns_image : ∀ r ∈ lowerRuns, 0x80 ≤ r.image ∨ (r.image = 0x6B ∧ r.first = r.last) := by
  decide +kernel

theorem lowerExpansions_image :
    ∀ e ∈ lowerExpansions, e.2 ≠ [] ∧ ∀ n ∈ e.2, ¬ (CodePoint.mk n).IsPlain := by
  decide

/-- Beyond the basic Latin block there are small letters, but no plain ones. -/
theorem not_plain_of_mem_lower {c : CodePoint} (h : 0x80 ≤ c.val) :
    c.lower ≠ [] ∧ ∀ d ∈ c.lower, ¬ d.IsPlain := by
  rw [lower, if_neg (Nat.not_lt.mpr h), mapCase]
  cases hrun : lowerRuns.findSome? (·.counterpart? c.val) with
  | some n =>
    refine ⟨List.cons_ne_nil _ _, fun d hd hplain => ?_⟩
    obtain rfl := List.mem_singleton.mp hd
    obtain ⟨r, hr, hn⟩ := List.exists_of_findSome?_eq_some hrun
    rw [CaseRun.counterpart?] at hn
    split at hn
    · next hin =>
      obtain rfl := Option.some.inj hn
      obtain himage | ⟨himage, hsingle⟩ := lowerRuns_image r hr
      · exact absurd hplain.1 (Nat.not_lt.mpr (Nat.le_add_right_of_le himage))
      · have hzero : c.val - r.first = 0 := by omega
        rw [himage, hzero] at hplain
        exact hplain.2.1 rfl
    · exact nomatch hn
  | none =>
    cases hentry : lowerExpansions.find? (·.1 == c.val) with
    | some e =>
      obtain ⟨hne, hplain⟩ := lowerExpansions_image e (List.mem_of_find?_eq_some hentry)
      refine ⟨mt List.map_eq_nil_iff.mp hne, fun d hd => ?_⟩
      obtain ⟨n, hn, rfl⟩ := List.mem_map.mp hd
      exact hplain n hn
    | none =>
      refine ⟨List.cons_ne_nil _ _, fun d hd hplain => ?_⟩
      obtain rfl := List.mem_singleton.mp hd
      exact absurd hplain.1 (Nat.not_lt.mpr h)

theorem lower_of_latin {c : CodePoint} (h : c.val < 0x80) : c.lower = [c.lowerLatin] := by
  rw [lower, if_pos h, lowerLatin]
  split <;> rfl

theorem latin_of_lowerLatin {c : CodePoint} (h : c.lowerLatin.val < 0x80) : c.val < 0x80 := by
  rw [lowerLatin] at h
  split at h
  · omega
  · exact h

/-- Only the letters a to z are small forms of others in the basic Latin block. -/
theorem eq_of_lowerLatin {c d : CodePoint} (h : c.lowerLatin = d) (hd : d.val < 0x61) : c = d := by
  rw [lowerLatin] at h
  split at h
  · rw [← h] at hd
    exact absurd hd (by dsimp only; omega)
  · exact h

end CodePoint

namespace Text

variable {t u : Text}

/-! ## 2. A text -/

theorem toLower_go_of_latin (h : ∀ c ∈ t, c.val < 0x80) (before : Text) :
    toLower.go before t = t.toLowerLatin := by
  induction t generalizing before with
  | nil => rfl
  | cons c t ih =>
    obtain ⟨hc, ht⟩ := List.forall_mem_cons.mp h
    have hsigma : c.val ≠ 0x3A3 := by omega
    rw [toLower.go, if_neg hsigma, CodePoint.lower_of_latin hc, ih ht]
    rfl

/-- A plain code point among the small letters comes from the basic Latin block. -/
theorem mem_of_plain_mem_toLower_go {d : CodePoint} (hd : d.IsPlain) {before : Text}
    (h : d ∈ toLower.go before t) : ∃ c ∈ t, c.lowerLatin = d := by
  induction t generalizing before with
  | nil => exact nomatch h
  | cons c t ih =>
    rw [toLower.go] at h
    obtain h | h := List.mem_append.mp h
    · by_cases hsigma : c.val = 0x3A3
      · simp only [if_pos hsigma] at h
        split at h
        · obtain rfl := List.mem_singleton.mp h
          exact absurd hd (by decide)
        · obtain rfl := List.mem_singleton.mp h
          exact absurd hd (by decide)
      · rw [if_neg hsigma] at h
        by_cases hlatin : c.val < 0x80
        · rw [CodePoint.lower_of_latin hlatin] at h
          exact ⟨c, List.mem_cons_self, (List.mem_singleton.mp h).symm⟩
        · exact absurd hd ((CodePoint.not_plain_of_mem_lower (Nat.not_lt.mp hlatin)).2 d h)
    · obtain ⟨e, he, hlower⟩ := ih h
      exact ⟨e, List.mem_cons_of_mem _ he, hlower⟩

/-- Every code point of a text leaves a trace in its small letters, so a text with plain small
letters is all of the basic Latin block. -/
theorem latin_of_toLower_go {before : Text}
    (h : ∀ d ∈ toLower.go before t, d.IsPlain) : ∀ c ∈ t, c.val < 0x80 := by
  induction t generalizing before with
  | nil => exact fun c hc => nomatch hc
  | cons c t ih =>
    rw [toLower.go] at h
    obtain ⟨hfirst, hrest⟩ := List.forall_mem_append.mp h
    refine List.forall_mem_cons.mpr ⟨?_, ih hrest⟩
    refine Nat.lt_of_not_le fun hbeyond => ?_
    by_cases hsigma : c.val = 0x3A3
    · simp only [if_pos hsigma] at hfirst
      split at hfirst
      · exact absurd (hfirst _ List.mem_cons_self) (by decide)
      · exact absurd (hfirst _ List.mem_cons_self) (by decide)
    · rw [if_neg hsigma] at hfirst
      obtain ⟨hne, hplain⟩ := CodePoint.not_plain_of_mem_lower hbeyond
      obtain ⟨d, hd⟩ := List.exists_mem_of_ne_nil _ hne
      exact hplain d hd (hfirst d hd)

/-- **Plain text in small letters** comes only from letters A to Z made small. -/
theorem toLower_eq_iff (hu : ∀ c ∈ u, c.IsPlain) : t.toLower = u ↔ t.toLowerLatin = u := by
  constructor
  · intro h
    rw [← h] at hu
    rw [← h, toLower, toLower_go_of_latin (latin_of_toLower_go hu)]
  · intro h
    have hlatin : ∀ c ∈ t, c.val < 0x80 := by
      intro c hc
      have hmem : c.lowerLatin ∈ u := h ▸ List.mem_map.mpr ⟨c, hc, rfl⟩
      exact CodePoint.latin_of_lowerLatin (hu _ hmem).1
    rw [toLower, toLower_go_of_latin hlatin, h]

/-- No mark or digit appears when letters are made small. -/
theorem mem_of_mem_toLower {d : CodePoint} (hd : d.val < 0x61) (h : d ∈ t.toLower) : d ∈ t := by
  have hne : ∀ k : CodePoint, 0x61 ≤ k.val → d ≠ k := by
    rintro k hk rfl
    exact Nat.lt_irrefl _ (Nat.lt_of_lt_of_le hd hk)
  have hplain : d.IsPlain :=
    ⟨Nat.lt_of_lt_of_le hd (by decide), hne _ (by decide), hne _ (by decide)⟩
  obtain ⟨c, hc, hlower⟩ := mem_of_plain_mem_toLower_go hplain h
  exact CodePoint.eq_of_lowerLatin hlower hd ▸ hc

theorem toLowerLatin_eq_iff_of_caseless (hu : ∀ c ∈ u, c.IsCaseless) :
    t.toLowerLatin = u ↔ t = u := by
  induction t generalizing u with
  | nil => rfl
  | cons c t ih =>
    cases u with
    | nil => simp [toLowerLatin]
    | cons d u =>
      obtain ⟨hd, hu⟩ := List.forall_mem_cons.mp hu
      rw [toLowerLatin, List.map_cons, List.cons.injEq, List.cons.injEq, ← toLowerLatin, ih hu]
      refine and_congr_left fun _ => ⟨fun h => CodePoint.eq_of_lowerLatin h (Nat.lt_of_le_of_lt hd.2 (by decide)), ?_⟩
      rintro rfl
      have hsmall : ¬ (0x41 ≤ c.val ∧ c.val ≤ 0x5A) := fun h => by
        have := hd.2
        omega
      rw [CodePoint.lowerLatin, if_neg hsmall]

/-- Text without letters is the small form of itself only. -/
theorem toLower_eq_iff_of_caseless (hu : ∀ c ∈ u, c.IsCaseless) : t.toLower = u ↔ t = u := by
  rw [toLower_eq_iff fun c hc => (hu c hc).isPlain, toLowerLatin_eq_iff_of_caseless hu]

end Text

end LintMend
