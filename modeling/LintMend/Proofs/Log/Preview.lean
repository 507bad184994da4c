/-
LintMend.Proofs.Log.Preview — previews are a normal form of outside text.

What a preview shows is told by a relation that reads the text from left to right: a complete colour
sequence is passed over as a whole, a control character at which none starts is passed over alone,
and everything else is shown. Taking one sequence out can put the pieces of another together. The
escape of such a pair is a control character of its own, so nothing is left to run again, and a
preview without a limit holds no control character at all.

The cut at a limit makes a text longer than the limit, so a preview is cut again when it is taken
of itself. The second cut is at the same place, and the three points behind it are the same.

  `IsColour`, `afterColour?_eq_some_iff` — complete colour sequences
  `Cleaned`, `cleaned_iff`               — what is taken out of a text, and that nothing else is
  `truncated_of_le`, `truncated_of_lt`   — the cut
  `preview_normalises`                   — all of it together
-/
import LintMend.Log.Preview
import Mathlib.Data.List.TakeWhile

namespace LintMend.Text

variable {t u rest s : Text} {c : CodePoint} {limit : Option Int} {n : Int}

/-! ## 1. Colour sequences -/

/-- A complete colour sequence: escape, bracket, digits and semicolons, and the letter. -/
def IsColour (s : Text) : Prop :=
  ∃ parameters : Text, s = "\x1b[" ++ (parameters ++ "m") ∧
    ∀ c ∈ parameters, c.isColourParameter = true

theorem afterColour?_append (hs : IsColour s) (rest : Text) :
    afterColour? (s ++ rest) = some rest := by
  obtain ⟨parameters, rfl, hparameters⟩ := hs
  have hstop : (parameters ++ ("m" ++ rest)).dropWhile CodePoint.isColourParameter =
      "m" ++ rest := by
    rw [List.dropWhile_append_of_pos hparameters]
    rfl
  rw [List.append_assoc, List.append_assoc]
  change afterColour? (⟨0x1B⟩ :: ⟨0x5B⟩ :: (parameters ++ ("m" ++ rest))) = some rest
  rw [afterColour?, hstop]
  rfl

theorem afterColour?_eq_some_iff :
    afterColour? t = some rest ↔ ∃ s, IsColour s ∧ t = s ++ rest := by
  constructor
  · intro h
    unfold afterColour? at h
    split at h
    · next body =>
      split at h
      · next after hafter =>
        obtain rfl := Option.some.inj h
        refine ⟨_, ⟨body.takeWhile CodePoint.isColourParameter, rfl, ?_⟩, ?_⟩
        · intro c hc
          exact List.mem_takeWhile_imp hc
        · have hbody : body = body.takeWhile CodePoint.isColourParameter ++ ("m" ++ after) := by
            conv => lhs; rw [← List.takeWhile_append_dropWhile (p := CodePoint.isColourParameter)
              (l := body), hafter]
            rfl
          rw [List.append_assoc, List.append_assoc, ← hbody]
          rfl
      · exact nomatch h
    · exact nomatch h
  · rintro ⟨s, hs, rfl⟩
    exact afterColour?_append hs rest

theorem afterColour?_eq_none (h : ∀ s, IsColour s → ¬ s <+: t) : afterColour? t = none := by
  cases hafter : afterColour? t with
  | none => rfl
  | some rest =>
    obtain ⟨s, hs, rfl⟩ := afterColour?_eq_some_iff.mp hafter
    exact absurd (List.prefix_append s rest) (h s hs)

/-- A colour sequence starts with a control character. -/
theorem not_colour_of_shown (hc : c.isControl = false) (hs : IsColour s) : ¬ s <+: c :: t := by
  obtain ⟨parameters, rfl, -⟩ := hs
  rintro ⟨more, hmore⟩
  obtain ⟨rfl, -⟩ := List.cons.inj hmore
  exact absurd hc (by decide)

/-! ## 2. What is taken out -/

theorem dropColours_of_some (h : afterColour? t = some rest) :
    dropColours t = dropColours rest := by
  rw [dropColours]
  split <;> simp_all

theorem dropColours_cons (h : afterColour? (c :: t) = none) :
    dropColours (c :: t) = c :: dropColours t := by
  rw [dropColours]
  split <;> simp_all

/-- A text, and what is shown of it: complete colour sequences are taken out, and so are control
characters at which none starts. -/
inductive Cleaned : Text → Text → Prop
  | done : Cleaned [] []
  | colour {s t u : Text} (hs : IsColour s) (hrest : Cleaned t u) : Cleaned (s ++ t) u
  | control {c : CodePoint} {t u : Text} (hc : c.isControl = true)
      (hnone : ∀ s, IsColour s → ¬ s <+: c :: t) (hrest : Cleaned t u) : Cleaned (c :: t) u
  | shown {c : CodePoint} {t u : Text} (hc : c.isControl = false) (hrest : Cleaned t u) :
      Cleaned (c :: t) (c :: u)

theorem cleaned_dropColours (t : Text) : Cleaned t (dropControls (dropColours t)) := by
  induction t using dropColours.induct with
  | case1 t rest hrest ih =>
    obtain ⟨s, hs, rfl⟩ := afterColour?_eq_some_iff.mp hrest
    rw [dropColours_of_some hrest]
    exact .colour hs ih
  | case2 hnone =>
    rw [dropColours]
    exact .done
  | case3 c t hnone ih =>
    rw [dropColours_cons hnone]
    cases hc : c.isControl with
    | true =>
      have hgone : dropControls (c :: dropColours t) = dropControls (dropColours t) := by
        simp [dropControls, hc]
      rw [hgone]
      refine .control hc (fun s hs hstart => ?_) ih
      obtain ⟨more, hmore⟩ := hstart
      rw [← hmore, afterColour?_append hs more] at hnone
      exact nomatch hnone
    | false =>
      have hkept : dropControls (c :: dropColours t) = c :: dropControls (dropColours t) := by
        simp [dropControls, hc]
      rw [hkept]
      exact .shown hc ih

namespace Cleaned

/-- What is shown is told by the text. -/
theorem eq_dropControls (h : Cleaned t u) : u = dropControls (dropColours t) := by
  induction h with
  | done =>
    rw [dropColours]
    rfl
  | colour hs hrest ih =>
    rw [dropColours_of_some (afterColour?_append hs _)]
    exact ih
  | control hc hnone hrest ih =>
    rw [dropColours_cons (afterColour?_eq_none hnone)]
    simpa [dropControls, hc] using ih
  | shown hc hrest ih =>
    rw [dropColours_cons (afterColour?_eq_none fun s hs => not_colour_of_shown hc hs)]
    simpa [dropControls, hc] using ih

theorem sublist (h : Cleaned t u) : u.Sublist t := by
  induction h with
  | done => exact List.Sublist.refl []
  | colour hs hrest ih => exact ih.trans (List.sublist_append_right _ _)
  | control hc hnone hrest ih => exact ih.cons _
  | shown hc hrest ih => exact ih.cons_cons _

theorem isControl_of_mem (h : Cleaned t u) : ∀ c ∈ u, c.isControl = false := by
  induction h with
  | done => simp
  | colour hs hrest ih => exact ih
  | control hc hnone hrest ih => exact ih
  | shown hc hrest ih => exact List.forall_mem_cons.mpr ⟨hc, ih⟩

/-- Of a text without control characters all is shown. -/
theorem refl (h : ∀ c ∈ t, c.isControl = false) : Cleaned t t := by
  induction t with
  | nil => exact .done
  | cons c t ih =>
    obtain ⟨hc, hrest⟩ := List.forall_mem_cons.mp h
    exact .shown hc (ih hrest)

end Cleaned

theorem preview_none (t : Text) : preview none t = dropControls (dropColours t) := by
  unfold preview
  split
  · next hempty =>
    rw [List.isEmpty_iff.mp hempty, dropColours]
    rfl
  · rfl

/-- **Without a limit, a preview is what is shown of the text.** -/
theorem cleaned_iff : Cleaned t u ↔ u = preview none t := by
  rw [preview_none]
  constructor
  · exact Cleaned.eq_dropControls
  · rintro rfl
    exact cleaned_dropColours t

theorem cleaned_preview (t : Text) : Cleaned t (preview none t) :=
  cleaned_iff.mpr rfl

theorem preview_none_of_shown (h : ∀ c ∈ t, c.isControl = false) : preview none t = t :=
  (cleaned_iff.mp (Cleaned.refl h)).symm

/-! ## 3. The cut -/

theorem truncated_of_le (h : ∀ n ∈ limit, (t.length : Int) ≤ n) : truncated limit t = t := by
  cases limit with
  | none => rfl
  | some n =>
    have hn := h n rfl
    show (if (t.length : Int) > n then upTo n t ++ "..." else t) = t
    rw [if_neg (by omega)]

theorem truncated_of_lt (hn : 0 ≤ n) (h : n < (t.length : Int)) :
    truncated (some n) t = t.take n.toNat ++ "..." := by
  show (if (t.length : Int) > n then upTo n t ++ "..." else t) = _
  rw [if_pos h, upTo, if_pos hn]

/-- A limit cuts what is shown without one. -/
theorem preview_eq_truncated (hlimit : ∀ n ∈ limit, 0 ≤ n) (t : Text) :
    preview limit t = truncated limit (preview none t) := by
  cases t with
  | nil => exact (truncated_of_le hlimit).symm
  | cons c t =>
    rw [preview_none]
    rfl

/-- A preview is what is shown of the text, or that cut at the limit. -/
theorem preview_cases (hlimit : ∀ n ∈ limit, 0 ≤ n) (t : Text) :
    ((∀ n ∈ limit, ((preview none t).length : Int) ≤ n) ∧ preview limit t = preview none t) ∨
      ∃ n, limit = some n ∧ n < ((preview none t).length : Int) ∧
        preview limit t = (preview none t).take n.toNat ++ "..." := by
  rw [preview_eq_truncated hlimit]
  cases limit with
  | none => exact .inl ⟨nofun, rfl⟩
  | some n =>
    by_cases h : ((preview none t).length : Int) ≤ n
    · have hfits : ∀ m ∈ some n, ((preview none t).length : Int) ≤ m := by simpa using h
      exact .inl ⟨hfits, truncated_of_le hfits⟩
    · have hlong : n < ((preview none t).length : Int) := by omega
      exact .inr ⟨n, rfl, hlong, truncated_of_lt (hlimit n rfl) hlong⟩

/-! ## 4. Previews -/

theorem isControl_of_mem_preview (hlimit : ∀ n ∈ limit, 0 ≤ n) (t : Text) :
    ∀ c ∈ preview limit t, c.isControl = false := by
  have hshown := (cleaned_preview t).isControl_of_mem
  obtain ⟨-, hwhole⟩ | ⟨n, -, -, hcut⟩ := preview_cases hlimit t
  · rw [hwhole]
    exact hshown
  · rw [hcut]
    refine List.forall_mem_append.mpr ⟨?_, by decide⟩
    intro c hc
    exact hshown c (List.mem_of_mem_take hc)

/-- **A preview of a preview is the preview.** -/
theorem preview_preview (hlimit : ∀ n ∈ limit, 0 ≤ n) (t : Text) :
    preview limit (preview limit t) = preview limit t := by
  have hagain := preview_none_of_shown (isControl_of_mem_preview hlimit t)
  rw [preview_eq_truncated hlimit (preview limit t), hagain]
  obtain ⟨hfits, hwhole⟩ | ⟨n, rfl, hlong, hcut⟩ := preview_cases hlimit t
  · rw [hwhole]
    exact truncated_of_le hfits
  · have hn := hlimit n rfl
    have hfront : ((preview none t).take n.toNat).length = n.toNat := by
      rw [List.length_take]
      omega
    -- the cut text is longer than the limit by the three points, so it is cut again
    have hlonger : n < (((preview none t).take n.toNat ++ "..." : Text).length : Int) := by
      rw [List.length_append, hfront]
      have hpoints : ("..." : Text).length = 3 := rfl
      omega
    rw [hcut, truncated_of_lt hn hlonger, List.take_append_of_le_length (by omega),
      List.take_of_length_le (by omega)]

theorem length_preview_le (hlimit : ∀ n ∈ limit, 0 ≤ n) (t : Text) :
    ∀ n ∈ limit, ((preview limit t).length : Int) ≤ n + 3 := by
  intro n hmem
  have hn := hlimit n hmem
  obtain ⟨hfits, hwhole⟩ | ⟨m, rfl, hlong, hcut⟩ := preview_cases hlimit t
  · have hle := hfits n hmem
    rw [hwhole]
    omega
  · obtain rfl : m = n := Option.some.inj hmem
    have hpoints : ("..." : Text).length = 3 := rfl
    rw [hcut, List.length_append, List.length_take]
    omega

/-- **Previews are a normal form.** They show no control character. Without a limit, a preview is
the text without complete colour sequences and control characters, and nothing else is taken out;
with a limit, it is that, or its beginning up to the limit and three points if it is longer. Taking
a preview of a preview changes nothing, and neither does a preview of a text that has no control
characters and is not longer than the limit. -/
theorem preview_normalises (hlimit : ∀ n ∈ limit, 0 ≤ n) (t : Text) :
    (∀ c ∈ preview limit t, c.isControl = false) ∧
    (∀ u, Cleaned t u ↔ u = preview none t) ∧ (preview none t).Sublist t ∧
    (∀ n ∈ limit, ((preview limit t).length : Int) ≤ n + 3 ∧
      preview limit t = if ((preview none t).length : Int) ≤ n then preview none t
        else (preview none t).take n.toNat ++ "...") ∧
    preview limit (preview limit t) = preview limit t ∧
    ((∀ c ∈ t, c.isControl = false) → (∀ n ∈ limit, (t.length : Int) ≤ n) →
      preview limit t = t) := by
  refine ⟨isControl_of_mem_preview hlimit t, fun u => cleaned_iff, (cleaned_preview t).sublist,
    fun n hn => ⟨length_preview_le hlimit t n hn, ?_⟩, preview_preview hlimit t,
    fun hshown hfits => ?_⟩
  · obtain ⟨hfits, hwhole⟩ | ⟨m, rfl, hlong, hcut⟩ := preview_cases hlimit t
    · rw [if_pos (hfits n hn)]
      exact hwhole
    · obtain rfl : m = n := Option.some.inj hn
      rw [if_neg (by omega)]
      exact hcut
  · rw [preview_eq_truncated hlimit, preview_none_of_shown hshown]
    exact truncated_of_le hfits

/-- Around a colour sequence the pieces of another can stand. Their escape is taken out alone, and
what is left of them is cut like other text. -/
theorem preview_normalises_pieces : (∀ n ∈ some (2 : Int), 0 ≤ n) ∧
    preview (some 2) "\x1b\x1b[0m[1mab" = "[1..." ∧
    preview (some 2) (preview (some 2) "\x1b\x1b[0m[1mab") =
      preview (some 2) "\x1b\x1b[0m[1mab" := by
  have hlimit : ∀ n ∈ some (2 : Int), 0 ≤ n := by simp
  obtain ⟨-, hcleaned, -, hcut, hagain, -⟩ := preview_normalises hlimit "\x1b\x1b[0m[1mab"
  refine ⟨hlimit, ?_, hagain⟩
  have hshown : preview none "\x1b\x1b[0m[1mab" = "[1mab" := by
    cbv
  rw [(hcut 2 rfl).2, hshown]
  rfl

end LintMend.Text
