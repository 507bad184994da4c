/-
LintMend.Proofs.Text.SourceLines — two ways to count the lines of a text.

A compiler ends a line at a line feed, a carriage return, or the two of them. `Text.lines` also
ends one at every other code point that ends lines in some convention, such as a form feed. So a
line of source code comes out in pieces, one more than it holds further line breaks, and all later
lines have their numbers moved by so many.

  `isLineBreak_of_source` — what ends a line of source code ends a line
  `drift`                 — the number of further line breaks
  `getElem?_lines_drift`  — where a line of source code is among the lines
  `agrees_iff`            — up to which line the two ways agree
-/
import LintMend.Proofs.Text.Lines
import Mathlib.Data.List.TakeWhile

namespace LintMend.Text

variable {c : CodePoint} {rest row : Text} {rows : List Text}

/-! ## 1. Line breaks within a line -/

theorem isLineBreak_of_source (h : c.isSourceLineBreak = true) : c.isLineBreak = true := by
  simp only [CodePoint.isSourceLineBreak, Bool.or_eq_true, beq_iff_eq] at h
  rcases h with h | h
  · simp [CodePoint.isLineBreak, h]
  · simp [CodePoint.isLineBreak, h]

/-- The number of line breaks in some lines of source code. -/
def drift (rows : List Text) : Nat :=
  rows.flatten.countP CodePoint.isLineBreak

/-- A line up to the first line break in it. -/
def beginning (row : Text) : Text :=
  row.takeWhile (!·.isLineBreak)

theorem drift_cons (row : Text) (rows : List Text) :
    drift (row :: rows) = row.countP CodePoint.isLineBreak + drift rows := by
  simp [drift]

theorem drift_eq_zero_iff : drift rows = 0 ↔ ∀ row ∈ rows, ∀ c ∈ row, c.isLineBreak = false := by
  simp only [drift, List.countP_eq_zero, List.mem_flatten, Bool.not_eq_true]
  constructor
  · intro h row hrow c hc
    exact h c ⟨row, hrow, hc⟩
  · rintro h c ⟨row, hrow, hc⟩
    exact h row hrow c hc

/-- A line without a line break is all beginning, and no other line is. -/
theorem beginning_eq_self_iff : beginning row = row ↔ ∀ c ∈ row, c.isLineBreak = false := by
  constructor
  · intro h c hc
    rw [← h] at hc
    simpa using List.mem_takeWhile_imp hc
  · intro h
    exact List.takeWhile_eq_self_iff.mpr fun c hc => by simp [h c hc]

/-! ## 2. Two ways to count -/

/-- Lines of source code among lines: each begins at one of these, and takes up one more for each
line break that it holds. -/
def Spread : (rows lines : List Text) → Prop
  | [], _ => True
  | row :: rows, lines => lines.head? = some (beginning row) ∧
      Spread rows (lines.drop (row.countP CodePoint.isLineBreak + 1))

/-- A code point that ends no line goes to the front of the first one. -/
theorem Spread.push (hc : c.isLineBreak = false) (h : Spread rows lines')
    (hnil : rows = [] → lines' = []) : Spread (pushFirst c rows) (pushFirst c lines') := by
  cases rows with
  | nil =>
    rw [hnil rfl]
    simp [pushFirst, Spread, beginning, hc]
  | cons row rows =>
    obtain ⟨hhead, hrest⟩ := h
    cases lines' with
    | nil => simp at hhead
    | cons line more =>
      obtain rfl := Option.some.inj hhead
      refine ⟨by simp [pushFirst, beginning, hc], ?_⟩
      rw [List.countP_cons_of_neg (by simp [hc])]
      exact hrest

/-- What ends a line of source code ends a line. -/
theorem Spread.ended (h : Spread rows lines') : Spread ([] :: rows) ([] :: lines') :=
  ⟨rfl, h⟩

/-- A further line break ends a line, and stays within the line of source code. -/
theorem Spread.cut (hc : c.isLineBreak = true) (h : Spread rows lines') :
    Spread (pushFirst c rows) ([] :: lines') := by
  cases rows with
  | nil => exact ⟨by simp [beginning, hc], trivial⟩
  | cons row rows =>
    refine ⟨by simp [beginning, hc], ?_⟩
    rw [List.countP_cons_of_pos hc, List.drop_succ_cons]
    exact h.2

theorem spread_cons (hpair : ¬ (c = '\r' ∧ rest.head? = some '\n'))
    (h : Spread rest.sourceLines rest.lines) :
    Spread (sourceLines (c :: rest)) (lines (c :: rest)) := by
  have hnil : rest.sourceLines = [] → rest.lines = [] := by
    intro hnone
    have hrest : rest = [] := by
      by_contra hne
      exact linesBy_ne_nil hne hnone
    rw [hrest]
    rfl
  rw [sourceLines, lines, linesBy_cons hpair, linesBy_cons hpair]
  cases hsource : c.isSourceLineBreak with
  | true =>
    rw [isLineBreak_of_source hsource]
    exact h.ended
  | false =>
    cases hc : c.isLineBreak with
    | true => exact h.cut hc
    | false => exact h.push hc hnil

/-- **The lines of source code are spread over the lines of the text.** -/
theorem spread_lines : ∀ t : Text, Spread t.sourceLines t.lines
  | [] => trivial
  | [c] => spread_cons (by simp) trivial
  | c :: d :: t => by
    by_cases hpair : c = '\r' ∧ d = '\n'
    · obtain ⟨rfl, rfl⟩ := hpair
      exact (spread_lines t).ended
    · exact spread_cons (by simpa using hpair) (spread_lines (d :: t))

/-! ## 3. Numbers -/

theorem Spread.getElem?_eq (h : Spread rows lines') {i : Nat} (hi : i < rows.length) :
    lines'[i + drift (rows.take i)]? = some (beginning rows[i]) := by
  induction rows generalizing lines' i with
  | nil => exact absurd hi (Nat.not_lt_zero i)
  | cons row rows ih =>
    obtain ⟨hhead, hrest⟩ := h
    cases i with
    | zero =>
      rw [List.head?_eq_getElem?] at hhead
      exact hhead
    | succ i =>
      have hnext := ih hrest (Nat.lt_of_succ_lt_succ hi)
      rw [List.getElem?_drop] at hnext
      rw [List.take_succ_cons, drift_cons, List.getElem_cons_succ, ← hnext]
      congr 1
      omega

/-- **Where a line of source code is among the lines of the text**: each further line break in the
lines before it moves it by one. -/
theorem getElem?_lines_drift (t : Text) {i : Nat} (hi : i < t.sourceLines.length) :
    t.lines[i + drift (t.sourceLines.take i)]? = some (beginning t.sourceLines[i]) :=
  (spread_lines t).getElem?_eq hi

theorem drift_take_succ {i : Nat} (hi : i < rows.length) :
    drift (rows.take (i + 1)) = drift (rows.take i) + rows[i].countP CodePoint.isLineBreak := by
  rw [List.take_succ_eq_append_getElem hi, drift, drift, List.flatten_append, List.countP_append]
  simp

/-- **The two ways to count agree up to a line** exactly if no line up to it holds a further line
break. -/
theorem agrees_iff (t : Text) {k : Nat} (hk : k ≤ t.sourceLines.length) :
    (∀ i < k, t.lines[i]? = t.sourceLines[i]?) ↔
      ∀ row ∈ t.sourceLines.take k, ∀ c ∈ row, c.isLineBreak = false := by
  rw [← drift_eq_zero_iff]
  constructor
  · intro hagree
    -- a line that agrees holds no further break, so the next one is in its place, too
    have hzero : ∀ i ≤ k, drift (t.sourceLines.take i) = 0 := by
      intro i
      induction i with
      | zero => intro _; rfl
      | succ i ih =>
        intro hi
        have hthere : i < t.sourceLines.length := by omega
        have hbegin := getElem?_lines_drift t hthere
        rw [ih (by omega), Nat.add_zero, hagree i (by omega),
          List.getElem?_eq_getElem hthere] at hbegin
        have hself := beginning_eq_self_iff.mp (Option.some.inj hbegin).symm
        rw [drift_take_succ hthere, ih (by omega), Nat.zero_add, List.countP_eq_zero]
        simpa using hself
    exact hzero k (Nat.le_refl k)
  · intro hnone i hi
    have hthere : i < t.sourceLines.length := by omega
    have hrows := drift_eq_zero_iff.mp hnone
    have hbefore : drift (t.sourceLines.take i) = 0 := by
      refine drift_eq_zero_iff.mpr fun row hrow => hrows row ?_
      exact List.take_subset_take_left _ (Nat.le_of_lt hi) hrow
    have hself : beginning t.sourceLines[i] = t.sourceLines[i] := by
      refine beginning_eq_self_iff.mpr (hrows _ ?_)
      exact List.mem_take_iff_getElem.mpr ⟨i, by omega, rfl⟩
    have hbegin := getElem?_lines_drift t hthere
    rw [hbefore, Nat.add_zero, hself] at hbegin
    rw [hbegin, List.getElem?_eq_getElem hthere]

end LintMend.Text
