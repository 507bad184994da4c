/-
LintMend.Proofs.Text.Cutting — texts that are cut at a code point.

  `cut?_eq_some_iff`, `cutLast?_eq_some_iff` — the first and the last cut, told by the two sides
  `join_splitAt`, `splitAt_join`             — all cuts, and the pieces joined again
  `takeWhile_cut_iff`                        — the part of a text before something of a kind
-/
import LintMend.Text.Basic
import Mathlib.Data.List.TakeWhile

namespace LintMend.Text

variable {c : CodePoint} {t left right : Text}

/-! ## 1. One cut -/

/-- **The first cut** leaves nothing to cut at on its left. -/
theorem cut?_eq_some_iff : cut? c t = some (left, right) ↔ t = left ++ c :: right ∧ c ∉ left := by
  induction t generalizing left with
  | nil => simp [cut?]
  | cons d t ih =>
    rw [cut?]
    by_cases hd : d = c
    · rw [if_pos hd]
      constructor
      · intro h
        obtain ⟨rfl, rfl⟩ := Prod.mk.inj (Option.some.inj h)
        exact ⟨by rw [hd, List.nil_append], List.not_mem_nil⟩
      · rintro ⟨hsplit, hleft⟩
        cases left with
        | nil => rw [(List.cons.inj hsplit).2]
        | cons e left =>
          obtain ⟨rfl, -⟩ := List.cons.inj hsplit
          exact absurd (List.mem_cons.mpr (Or.inl hd.symm)) hleft
    · rw [if_neg hd, Option.map_eq_some_iff]
      constructor
      · rintro ⟨⟨first, rest⟩, hcut, hpair⟩
        obtain ⟨rfl, rfl⟩ := Prod.mk.inj hpair
        obtain ⟨hsplit, hfirst⟩ := ih.mp hcut
        refine ⟨by rw [hsplit, List.cons_append], fun hmem => ?_⟩
        obtain heq | hmem := List.mem_cons.mp hmem
        · exact hd heq.symm
        · exact hfirst hmem
      · rintro ⟨hsplit, hleft⟩
        cases left with
        | nil => exact absurd (List.cons.inj hsplit).1 hd
        | cons e left =>
          obtain ⟨rfl, hrest⟩ := List.cons.inj hsplit
          exact ⟨(left, right), ih.mpr ⟨hrest, fun h => hleft (List.mem_cons_of_mem _ h)⟩, rfl⟩

theorem cut?_eq_none_iff : cut? c t = none ↔ c ∉ t := by
  induction t with
  | nil => simp [cut?]
  | cons d t ih =>
    rw [cut?]
    by_cases hd : d = c
    · simp [hd]
    · simp [hd, ih, Ne.symm hd]

/-- A text in which a code point occurs is cut there. -/
theorem exists_cut? (h : c ∈ t) : ∃ left right, cut? c t = some (left, right) := by
  cases hcut : cut? c t with
  | none => exact absurd h (cut?_eq_none_iff.mp hcut)
  | some sides => exact ⟨sides.1, sides.2, rfl⟩

/-- **The last cut** leaves nothing to cut at on its right. -/
theorem cutLast?_eq_some_iff :
    cutLast? c t = some (left, right) ↔ t = left ++ c :: right ∧ c ∉ right := by
  rw [cutLast?, Option.map_eq_some_iff]
  constructor
  · rintro ⟨⟨last, first⟩, hcut, hpair⟩
    obtain ⟨rfl, rfl⟩ := Prod.mk.inj hpair
    obtain ⟨hsplit, hlast⟩ := cut?_eq_some_iff.mp hcut
    refine ⟨?_, by simpa using hlast⟩
    rw [← List.reverse_reverse t, hsplit]
    simp
  · rintro ⟨rfl, hright⟩
    refine ⟨(right.reverse, left.reverse), cut?_eq_some_iff.mpr ⟨by simp, by simpa using hright⟩, ?_⟩
    simp

theorem cutLast?_eq_none_iff : cutLast? c t = none ↔ c ∉ t := by
  rw [cutLast?, Option.map_eq_none_iff, cut?_eq_none_iff, List.mem_reverse]

/-! ## 2. All cuts -/

theorem splitAt_ne_nil (c : CodePoint) (t : Text) : splitAt c t ≠ [] := by
  cases t with
  | nil => simp [splitAt]
  | cons d t =>
    rw [splitAt]
    split
    · simp
    · split <;> simp

/-- The pieces, joined with what they were cut at, are the text. -/
theorem join_splitAt (c : CodePoint) (t : Text) : join [c] (splitAt c t) = t := by
  induction t with
  | nil => rfl
  | cons d t ih =>
    rw [splitAt]
    split
    · next hd =>
      cases hpieces : splitAt c t with
      | nil => exact absurd hpieces (splitAt_ne_nil c t)
      | cons piece pieces =>
        rw [hpieces] at ih
        simp [join, hd, ih]
    · split
      · next hpieces =>
        rw [hpieces] at ih
        simp [join, ← ih]
      · next piece pieces hpieces =>
        rw [hpieces] at ih
        cases pieces <;> simp_all [join]

theorem splitAt_of_not_mem (h : c ∉ t) : splitAt c t = [t] := by
  induction t with
  | nil => rfl
  | cons d t ih =>
    obtain ⟨hd, ht⟩ := not_or.mp (mt List.mem_cons.mpr h)
    rw [splitAt, if_neg (Ne.symm hd), ih ht]

theorem splitAt_append (h : c ∉ left) : splitAt c (left ++ c :: right) = left :: splitAt c right := by
  induction left with
  | nil => simp [splitAt]
  | cons d left ih =>
    obtain ⟨hd, hleft⟩ := not_or.mp (mt List.mem_cons.mpr h)
    rw [List.cons_append, splitAt, if_neg (Ne.symm hd), ih hleft]

/-- Joined pieces are cut apart again. -/
theorem splitAt_join {pieces : List Text} (hne : pieces ≠ []) (h : ∀ piece ∈ pieces, c ∉ piece) :
    splitAt c (join [c] pieces) = pieces := by
  induction pieces with
  | nil => exact absurd rfl hne
  | cons piece pieces ih =>
    obtain ⟨hpiece, hpieces⟩ := List.forall_mem_cons.mp h
    cases pieces with
    | nil => exact splitAt_of_not_mem hpiece
    | cons next pieces =>
      rw [join, List.append_assoc, List.singleton_append, splitAt_append hpiece,
        ih (List.cons_ne_nil _ _) hpieces]

theorem mem_join {pieces : List Text} {d : CodePoint} (h : d ∈ join [c] pieces) :
    d = c ∨ ∃ piece ∈ pieces, d ∈ piece := by
  induction pieces with
  | nil => exact nomatch h
  | cons piece pieces ih =>
    cases pieces with
    | nil => exact Or.inr ⟨piece, List.mem_cons_self, h⟩
    | cons next pieces =>
      rw [join, List.append_assoc, List.singleton_append] at h
      obtain h | h := List.mem_append.mp h
      · exact Or.inr ⟨piece, List.mem_cons_self, h⟩
      · obtain rfl | h := List.mem_cons.mp h
        · exact Or.inl rfl
        · obtain heq | ⟨other, hother, hd⟩ := ih h
          · exact Or.inl heq
          · exact Or.inr ⟨other, List.mem_cons_of_mem _ hother, hd⟩

theorem mem_of_two_le_length (h : 2 ≤ (splitAt c t).length) : c ∈ t := by
  by_cases hmem : c ∈ t
  · exact hmem
  · rw [splitAt_of_not_mem hmem] at h
    exact absurd h (by simp)

/-! ## 3. The part before something of a kind -/

/-- The part of a text before the first code point of a kind. -/
theorem takeWhile_cut_iff {stops : CodePoint → Bool} {front : Text} :
    t.takeWhile (!stops ·) = front ↔ ∃ rest, t = front ++ rest ∧ (∀ c ∈ front, stops c = false) ∧
      ∀ c, rest.head? = some c → stops c = true := by
  constructor
  · rintro rfl
    refine ⟨t.dropWhile (!stops ·), List.takeWhile_append_dropWhile.symm, fun c hc => ?_,
      fun c hc => ?_⟩
    · simpa using List.mem_takeWhile_imp hc
    · have hhead := List.head?_dropWhile_not (!stops ·) t
      rw [hc] at hhead
      simpa using hhead
  · rintro ⟨rest, rfl, hfront, hrest⟩
    have hpass : ∀ c ∈ front, (!stops c) = true := fun c hc => by simp [hfront c hc]
    rw [List.takeWhile_append_of_pos hpass]
    cases rest with
    | nil => simp
    | cons d rest => simp [hrest d rfl]

end LintMend.Text
