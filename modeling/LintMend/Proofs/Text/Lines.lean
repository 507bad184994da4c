/-
LintMend.Proofs.Text.Lines — lines that are joined and cut apart again.

  `Joined`              — lines with a line feed between each two, or a carriage return and one
  `lines_append`        — what a text without a line break adds to the lines behind it
  `filter_lines_joined` — the lines of a joined text that pass a test are those that were joined
  `lines_append_feed`   — the lines of two texts with a line feed between them
  `lines_join`          — lines that are joined and cut apart again, of which an empty last one is lost
-/
import LintMend.Text.Lines

namespace LintMend.Text

variable {line rest text : Text} {lines' : List Text} {c : CodePoint}

/-! ## 1. One line -/

theorem linesBy_of_not_end {ends : CodePoint → Bool} (hc : ends c = false) (hreturn : c.val ≠ 0x0D)
    (rest : Text) : linesBy ends (c :: rest) =
      match linesBy ends rest with
      | [] => [[c]]
      | line :: lines => (c :: line) :: lines := by
  rw [linesBy.eq_def]
  split
  · next heq => exact absurd heq (by simp)
  · next heq => exact absurd (congrArg CodePoint.val (List.cons.inj heq).1) hreturn
  · next heq =>
    obtain ⟨rfl, rfl⟩ := List.cons.inj heq
    rw [hc]
    rfl

/-- A text without a line break goes before the first line of what follows it. -/
theorem lines_append (hline : ∀ c ∈ line, c.isLineBreak = false) (rest : Text) :
    (line ++ rest).lines =
      match rest.lines with
      | [] => if line = [] then [] else [line]
      | first :: more => (line ++ first) :: more := by
  induction line with
  | nil => cases h : lines rest <;> simp [h]
  | cons c line ih =>
    obtain ⟨hc, hmore⟩ := List.forall_mem_cons.mp hline
    have hreturn : c.val ≠ 0x0D := by
      intro hval
      simp [CodePoint.isLineBreak, hval] at hc
    have hcons := linesBy_of_not_end hc hreturn (line ++ rest)
    change lines (c :: (line ++ rest)) = match lines (line ++ rest) with
      | [] => [[c]]
      | line :: lines => (c :: line) :: lines at hcons
    rw [List.cons_append, hcons, ih hmore]
    cases lines rest with
    | nil => cases line <;> simp
    | cons first more => simp

theorem lines_line (hline : ∀ c ∈ line, c.isLineBreak = false) :
    line.lines = if line = [] then [] else [line] := by
  simpa [lines, linesBy] using lines_append hline []

/-- A line ends at a line feed. -/
theorem lines_feed (hline : ∀ c ∈ line, c.isLineBreak = false) (text : Text) :
    (line ++ "\n" ++ text).lines = line :: text.lines := by
  have hfeed : lines ("\n" ++ text) = [] :: text.lines := rfl
  rw [List.append_assoc, lines_append hline, hfeed]
  simp only [List.append_nil]

/-- A carriage return and the line feed after it are one line end. -/
theorem lines_return_feed (hline : ∀ c ∈ line, c.isLineBreak = false) (text : Text) :
    (line ++ "\r\n" ++ text).lines = line :: text.lines := by
  have hfeed : lines ("\r\n" ++ text) = [] :: text.lines := rfl
  rw [List.append_assoc, lines_append hline, hfeed]
  simp only [List.append_nil]

/-! ## 2. Joined lines -/

/-- A text that is made of lines, each joined to the next with a line feed or with a carriage return
and a line feed. -/
inductive Joined : List Text → Text → Prop
  | none : Joined [] []
  | last (line : Text) : Joined [line] line
  | feed {next : Text} {rest : List Text} {text : Text} (line : Text) :
      Joined (next :: rest) text → Joined (line :: next :: rest) (line ++ "\n" ++ text)
  | returnFeed {next : Text} {rest : List Text} {text : Text} (line : Text) :
      Joined (next :: rest) text → Joined (line :: next :: rest) (line ++ "\r\n" ++ text)

/-- **The lines of a joined text that pass a test are those that were joined**, provided that the
empty line does not pass it. -/
theorem filter_lines_joined {keep : Text → Bool} (hkeep : keep [] = false)
    (h : Joined lines' text) (hlines : ∀ line ∈ lines', ∀ c ∈ line, c.isLineBreak = false) :
    text.lines.filter keep = lines'.filter keep := by
  induction h with
  | none => rfl
  | last line =>
    rw [lines_line (hlines line (List.mem_singleton_self line))]
    split
    · next hnil => simp [hnil, hkeep]
    · rfl
  | feed line _ ih =>
    obtain ⟨hline, hrest⟩ := List.forall_mem_cons.mp hlines
    rw [lines_feed hline, List.filter_cons, List.filter_cons, ih hrest]
  | returnFeed line _ ih =>
    obtain ⟨hline, hrest⟩ := List.forall_mem_cons.mp hlines
    rw [lines_return_feed hline, List.filter_cons, List.filter_cons, ih hrest]

/-! ## 3. Texts that go on after a line feed -/

section

variable {ends : CodePoint → Bool}

/-- Lines with one more code point at the front of the first. -/
def pushFirst (c : CodePoint) : List Text → List Text
  | [] => [[c]]
  | line :: lines => (c :: line) :: lines

theorem pushFirst_append (c : CodePoint) {xs : List Text} (hxs : xs ≠ []) (ys : List Text) :
    pushFirst c (xs ++ ys) = pushFirst c xs ++ ys := by
  cases xs with
  | nil => exact absurd rfl hxs
  | cons line lines => rfl

theorem linesBy_cons (h : ¬ (c = '\r' ∧ rest.head? = some '\n')) :
    linesBy ends (c :: rest) =
      if ends c then [] :: linesBy ends rest else pushFirst c (linesBy ends rest) := by
  rw [linesBy.eq_def]
  split
  · next heq => exact absurd heq (by simp)
  · next more heq =>
    obtain ⟨rfl, rfl⟩ := List.cons.inj heq
    exact absurd ⟨rfl, rfl⟩ h
  · next heq =>
    obtain ⟨rfl, rfl⟩ := List.cons.inj heq
    rfl

theorem linesBy_cons_of_ne (ends : CodePoint → Bool) (hc : c ≠ '\r') (rest : Text) :
    linesBy ends (c :: rest) =
      if ends c then [] :: linesBy ends rest else pushFirst c (linesBy ends rest) :=
  linesBy_cons fun h => hc h.1

theorem linesBy_cons_cons {d : CodePoint} (hpair : ¬ (c = '\r' ∧ d = '\n')) (rest : Text) :
    linesBy ends (c :: d :: rest) =
      if ends c then [] :: linesBy ends (d :: rest) else pushFirst c (linesBy ends (d :: rest)) :=
  linesBy_cons (by simpa using hpair)

theorem linesBy_ne_nil {t : Text} (h : t ≠ []) : linesBy ends t ≠ [] := by
  unfold linesBy
  split
  · exact absurd rfl h
  · simp
  · split
    · simp
    · split <;> simp

theorem linesBy_feed (hfeed : ends '\n' = true) (rest : Text) :
    linesBy ends ("\n" ++ rest) = [] :: linesBy ends rest := by
  have hnot : ¬ ((('\n' : CodePoint) = '\r') ∧ rest.head? = some '\n') := by
    rintro ⟨heq, -⟩
    exact absurd heq (by decide)
  exact (linesBy_cons hnot).trans (if_pos hfeed)

/-- A text goes on after a line feed as if it began there. -/
theorem linesBy_append_feed (hfeed : ends '\n' = true) (rest : Text) : ∀ t : Text,
    linesBy ends (t ++ "\n" ++ rest) = linesBy ends (t ++ "\n") ++ linesBy ends rest
  | [] => by
    have hlast : linesBy ends "\n" = [[]] := linesBy_feed hfeed []
    rw [List.nil_append, linesBy_feed hfeed, hlast]
    rfl
  | [c] => by
    by_cases hc : c = '\r'
    · subst hc
      rfl
    · have hcons : ∀ u, linesBy ends ([c] ++ "\n" ++ u) =
          if ends c then [] :: [] :: linesBy ends u else [c] :: linesBy ends u := by
        intro u
        have hstep := linesBy_cons_of_ne ends hc ("\n" ++ u)
        rw [linesBy_feed hfeed] at hstep
        exact hstep
      have hlast := hcons []
      rw [List.append_nil] at hlast
      rw [hcons, hlast]
      split <;> rfl
  | c :: d :: t => by
    by_cases hpair : c = '\r' ∧ d = '\n'
    · obtain ⟨rfl, rfl⟩ := hpair
      exact congrArg ([] :: ·) (linesBy_append_feed hfeed rest t)
    · have ih : linesBy ends (d :: (t ++ "\n" ++ rest)) =
          linesBy ends (d :: (t ++ "\n")) ++ linesBy ends rest :=
        linesBy_append_feed hfeed rest (d :: t)
      rw [List.cons_append, List.cons_append, List.cons_append, List.cons_append,
        linesBy_cons_cons hpair, linesBy_cons_cons hpair, ih]
      split
      · rfl
      · exact pushFirst_append c (linesBy_ne_nil (by simp)) _

/-- A line feed at the end of a text ends its last line, or adds an empty one. -/
theorem linesBy_feed_end (hfeed : ends '\n' = true) (hreturn : ends '\r' = true) : ∀ t : Text,
    linesBy ends (t ++ "\n") = linesBy ends t ∨ linesBy ends (t ++ "\n") = linesBy ends t ++ [[]]
  | [] => .inr (linesBy_feed hfeed [])
  | [c] => by
    by_cases hc : c = '\r'
    · subst hc
      have hline : linesBy ends ['\r'] = [[]] := (linesBy_cons (by simp)).trans (if_pos hreturn)
      exact .inl (Eq.symm hline)
    · have hstep := linesBy_cons_of_ne ends hc "\n"
      have hline := linesBy_cons_of_ne ends hc []
      have hlast : linesBy ends "\n" = [[]] := linesBy_feed hfeed []
      rw [hlast] at hstep
      have hshape : [c] ++ "\n" = c :: ("\n" : Text) := rfl
      rw [hshape, hstep, hline]
      split
      · exact .inr rfl
      · exact .inl rfl
  | c :: d :: t => by
    by_cases hpair : c = '\r' ∧ d = '\n'
    · obtain ⟨rfl, rfl⟩ := hpair
      exact (linesBy_feed_end hfeed hreturn t).imp (congrArg ([] :: ·)) (congrArg ([] :: ·))
    · have ih : linesBy ends (d :: (t ++ "\n")) = linesBy ends (d :: t) ∨
          linesBy ends (d :: (t ++ "\n")) = linesBy ends (d :: t) ++ [[]] :=
        linesBy_feed_end hfeed hreturn (d :: t)
      rw [List.cons_append, List.cons_append, linesBy_cons_cons hpair, linesBy_cons_cons hpair]
      rcases ih with ih | ih
      · exact .inl (by rw [ih])
      · right
        rw [ih]
        split
        · rfl
        · exact pushFirst_append c (linesBy_ne_nil (by simp)) _

/-- **The lines of a text, a line feed and another text** are those of the one and of the other, and
perhaps an empty line between them. -/
theorem lines_append_feed (t rest : Text) :
    (t ++ "\n" ++ rest).lines = t.lines ++ rest.lines ∨
      (t ++ "\n" ++ rest).lines = t.lines ++ [] :: rest.lines := by
  have happend : (t ++ "\n" ++ rest).lines = (t ++ "\n").lines ++ rest.lines :=
    linesBy_append_feed rfl rest t
  have hend : (t ++ "\n").lines = t.lines ∨ (t ++ "\n").lines = t.lines ++ [[]] :=
    linesBy_feed_end rfl rfl t
  rw [happend]
  rcases hend with h | h
  · exact .inl (by rw [h])
  · exact .inr (by rw [h, List.append_assoc, List.singleton_append])

end

/-! ## 4. The lines of a text, joined again -/

theorem not_end_of_mem_pushFirst {ends : CodePoint → Bool} (hc : ends c = false)
    (hlines : ∀ line ∈ lines', ∀ d ∈ line, ends d = false) :
    ∀ line ∈ pushFirst c lines', ∀ d ∈ line, ends d = false := by
  cases lines' with
  | nil => simp [pushFirst, hc]
  | cons first more =>
    obtain ⟨hfirst, hmore⟩ := List.forall_mem_cons.mp hlines
    refine List.forall_mem_cons.mpr ⟨?_, hmore⟩
    exact List.forall_mem_cons.mpr ⟨hc, hfirst⟩

/-- No line holds what ends one. -/
theorem not_end_of_mem_linesBy (ends : CodePoint → Bool) : ∀ t : Text,
    ∀ line ∈ linesBy ends t, ∀ d ∈ line, ends d = false
  | [] => by simp [linesBy]
  | [c] => by
    have hnone : ∀ line ∈ linesBy ends [], ∀ d ∈ line, ends d = false := by simp [linesBy]
    rw [linesBy_cons (by simp)]
    cases hc : ends c with
    | true => exact List.forall_mem_cons.mpr ⟨by simp, hnone⟩
    | false => exact not_end_of_mem_pushFirst hc hnone
  | c :: d :: t => by
    by_cases hpair : c = '\r' ∧ d = '\n'
    · obtain ⟨rfl, rfl⟩ := hpair
      show ∀ line ∈ [] :: linesBy ends t, ∀ d ∈ line, ends d = false
      exact List.forall_mem_cons.mpr ⟨by simp, not_end_of_mem_linesBy ends t⟩
    · have ih := not_end_of_mem_linesBy ends (d :: t)
      rw [linesBy_cons_cons hpair]
      cases hc : ends c with
      | true => exact List.forall_mem_cons.mpr ⟨by simp, ih⟩
      | false => exact not_end_of_mem_pushFirst hc ih

theorem isLineBreak_of_mem_lines (h : line ∈ text.lines) : ∀ c ∈ line, c.isLineBreak = false :=
  not_end_of_mem_linesBy CodePoint.isLineBreak text line h

/-- **Joined lines are cut apart again**, but for an empty one at the end: the line feed before it
then stands at the end of the text, where it opens no line. -/
theorem lines_join (hlines : ∀ line ∈ lines', ∀ c ∈ line, c.isLineBreak = false) :
    (join "\n" lines').lines =
      if lines'.getLast? = some [] then lines'.dropLast else lines' := by
  induction lines' with
  | nil => rfl
  | cons line more ih =>
    obtain ⟨hline, hmore⟩ := List.forall_mem_cons.mp hlines
    cases more with
    | nil =>
      rw [join, lines_line hline]
      by_cases hempty : line = [] <;> simp [hempty]
    | cons next rest =>
      rw [join, lines_feed hline, ih hmore, List.getLast?_cons_cons]
      split
      · rfl
      · rfl

end LintMend.Text
