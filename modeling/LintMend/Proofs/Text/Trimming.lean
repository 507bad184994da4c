/-
LintMend.Proofs.Text.Trimming — texts without what stands at their ends, and texts in texts.

  `trimEnd_append_of_all`, `trimEnd_concat` — what trimming takes away, and where it stops
  `strip_cut`, `strip_padded`               — the blanks around a text, which do not change what is left
  `strip_strip`, `strip_eq_self`            — what is left is left again
  `contains_iff`, `dropStart?_eq_some_iff`  — parts of a text
-/
import LintMend.Text.Space
import Mathlib.Data.List.DropRight
import Mathlib.Data.List.Infix

namespace LintMend.Text

variable {drop : CodePoint → Bool} {part t u z : Text} {c : CodePoint}

/-! ## 1. Trimming -/

theorem trimEnd_concat (h : drop c = false) : trimEnd drop (t ++ [c]) = t ++ [c] :=
  List.rdropWhile_concat_neg drop t c (by simp [h])

theorem trimEnd_append_of_all (h : ∀ c ∈ z, drop c = true) :
    trimEnd drop (t ++ z) = trimEnd drop t := by
  have hall : ∀ c ∈ z.reverse, drop c = true := by simpa using h
  rw [trimEnd, List.reverse_append, List.dropWhile_append_of_pos hall]
  rfl

/-- What is trimmed away at the end passes the test. -/
theorem trimEnd_cut (drop : CodePoint → Bool) (t : Text) :
    ∃ z, t = trimEnd drop t ++ z ∧ ∀ c ∈ z, drop c = true :=
  ⟨List.rtakeWhile drop t, List.rdropWhile_append_rtakeWhile.symm,
    fun _ => List.mem_rtakeWhile_imp⟩

theorem trimEnd_prefix (drop : CodePoint → Bool) (t : Text) : trimEnd drop t <+: t :=
  List.rdropWhile_prefix drop t

/-- The blanks that are trimmed away at the start. -/
theorem stripStart_cut (t : Text) :
    ∃ w, t = w ++ stripStart t ∧ ∀ c ∈ w, c.isSpace = true :=
  ⟨t.takeWhile CodePoint.isSpace, List.takeWhile_append_dropWhile.symm,
    fun _ => List.mem_takeWhile_imp⟩

theorem stripStart_append_of_all (h : ∀ c ∈ z, c.isSpace = true) :
    stripStart (z ++ t) = stripStart t :=
  List.dropWhile_append_of_pos h

theorem stripStart_cons (h : c.isSpace = false) : stripStart (c :: t) = c :: t := by
  simp [stripStart, trimStart, h]

/-- **Blanks around a text do not change what is left of it.** -/
theorem strip_padded {w : Text} (hw : ∀ c ∈ w, c.isSpace = true)
    (hz : ∀ c ∈ z, c.isSpace = true) : strip (w ++ t ++ z) = strip t := by
  rw [strip, List.append_assoc, stripStart_append_of_all hw, strip, stripStart, trimStart,
    List.dropWhile_append]
  split
  · next hblank =>
    have hnone : t.dropWhile CodePoint.isSpace = [] := List.isEmpty_iff.mp hblank
    have hrest : z.dropWhile CodePoint.isSpace = [] := List.dropWhile_eq_nil_iff.mpr hz
    rw [stripStart, trimStart, hnone, hrest]
  · exact trimEnd_append_of_all hz

/-- The blanks around what is left of a text. -/
theorem strip_cut (t : Text) : ∃ w z, t = w ++ strip t ++ z ∧
    (∀ c ∈ w, c.isSpace = true) ∧ ∀ c ∈ z, c.isSpace = true := by
  obtain ⟨w, hw, hwblank⟩ := stripStart_cut t
  obtain ⟨z, hz, hzblank⟩ := trimEnd_cut CodePoint.isSpace (stripStart t)
  refine ⟨w, z, ?_, hwblank, hzblank⟩
  rw [List.append_assoc]
  exact hw.trans (congrArg (w ++ ·) hz)

theorem strip_strip (t : Text) : strip (strip t) = strip t := by
  obtain ⟨w, z, ht, hw, hz⟩ := strip_cut t
  calc
    strip (strip t) = strip (w ++ strip t ++ z) := (strip_padded hw hz).symm
    _ = strip t := by rw [← ht]

/-- What is left of a text does not start with a blank. -/
theorem isSpace_of_head?_strip (h : (strip t).head? = some c) : c.isSpace = false := by
  obtain ⟨z, hz, -⟩ := trimEnd_cut CodePoint.isSpace (stripStart t)
  change stripStart t = strip t ++ z at hz
  have hfirst : (stripStart t).head? = some c := by simp [hz, h]
  have hnot := List.head?_dropWhile_not CodePoint.isSpace t
  rw [stripStart, trimStart] at hfirst
  rw [hfirst] at hnot
  exact hnot

/-- What is left of a text does not end with a blank. -/
theorem isSpace_of_getLast?_strip (h : (strip t).getLast? = some c) : c.isSpace = false := by
  rw [strip, stripEnd, trimEnd, List.getLast?_reverse] at h
  have hfirst := List.head?_dropWhile_not CodePoint.isSpace (stripStart t).reverse
  rw [h] at hfirst
  exact hfirst

/-- A text that neither starts nor ends with a blank is left as it is. -/
theorem strip_eq_self (hstart : ∀ c, t.head? = some c → c.isSpace = false)
    (hend : ∀ c, t.getLast? = some c → c.isSpace = false) : strip t = t := by
  have hfirst : stripStart t = t := by
    cases t with
    | nil => rfl
    | cons c rest => exact stripStart_cons (hstart c rfl)
  rw [strip, hfirst]
  obtain rfl | ⟨rest, c, rfl⟩ := List.eq_nil_or_concat' t
  · rfl
  · exact trimEnd_concat (hend c (by simp))

/-! ## 2. Parts -/

theorem dropStart?_eq_some_iff {start : Text} : dropStart? start t = some u ↔ t = start ++ u := by
  induction start generalizing t with
  | nil => simp [dropStart?]
  | cons a start ih =>
    cases t with
    | nil => simp [dropStart?]
    | cons b t =>
      rw [dropStart?]
      by_cases h : a = b
      · simp [h, ih]
      · simp [h, Ne.symm h]

theorem contains_iff : contains part t = true ↔ part <:+: t := by
  induction t with
  | nil => simp [contains]
  | cons c rest ih =>
    rw [contains, Bool.or_eq_true, ih, startsWith, List.isPrefixOf_iff_prefix,
      List.infix_cons_iff]

end LintMend.Text
