/-
LintMend.Proofs.Reply.Fenced — a text in a code fence is taken out of it unchanged.

A fence is an opening line, three backticks with a tag and blanks behind them, and three backticks
on a line of their own at the end. Both are taken away with their line ends, and nothing else is,
provided that the text has no outer whitespace, which would be trimmed. It may hold fences itself,
and start or end with one.

  `dropOpening_line`, `dropClosing_line` — the two fences
  `stripFences_fenced`                   — the whole reply

The tag cannot run on: no code point of a tag is a blank, and neither is any that starts a line end.
The line end of the closing fence cannot grow either. A carriage return at the end of the text would
be taken for a part of it, and that is where the text without outer whitespace comes in.
-/
import LintMend.Proofs.Text.Trimming
import LintMend.Reply.Fence

namespace LintMend.Fence

variable {tag blanks opening body closing rest t : Text}

/-! ## 1. Line ends -/

/-- A line end: a line feed, or a carriage return and a line feed. -/
def IsLineEnd (t : Text) : Prop :=
  t = "\n" ∨ t = "\r\n"

theorem afterLineEnd?_append (h : IsLineEnd opening) (rest : Text) :
    afterLineEnd? (opening ++ rest) = some rest := by
  rcases h with rfl | rfl <;> rfl

/-- Nothing is dropped from a line end by a test that line ends fail. -/
theorem dropWhile_lineEnd {drop : CodePoint → Bool} (hfeed : drop '\n' = false)
    (hreturn : drop '\r' = false) (h : IsLineEnd opening) (rest : Text) :
    (opening ++ rest).dropWhile drop = opening ++ rest := by
  rcases h with rfl | rfl
  · have hline : "\n" ++ rest = ('\n' : CodePoint) :: rest := rfl
    rw [hline, List.dropWhile_cons_of_neg (by simp [hfeed])]
  · have hline : "\r\n" ++ rest = ('\r' : CodePoint) :: ("\n" ++ rest) := rfl
    rw [hline, List.dropWhile_cons_of_neg (by simp [hreturn])]

/-! ## 2. The opening fence -/

theorem isTagChar_of_isBlank {c : CodePoint} (h : isBlank c = true) : isTagChar c = false := by
  have hc : c = ' ' ∨ c = '\t' := by
    obtain ⟨n⟩ := c
    simpa [isBlank, CodePoint.ofChar] using h
  rcases hc with rfl | rfl <;> decide

/-- The rest of a fence line goes up to its line end. -/
theorem afterFenceLine?_line (htag : ∀ c ∈ tag, isTagChar c = true)
    (hblanks : ∀ c ∈ blanks, isBlank c = true) (hopening : IsLineEnd opening) (rest : Text) :
    afterFenceLine? (tag ++ (blanks ++ (opening ++ rest))) = some rest := by
  have hstop : (blanks ++ (opening ++ rest)).dropWhile isTagChar =
      blanks ++ (opening ++ rest) := by
    cases blanks with
    | nil => exact dropWhile_lineEnd (by decide) (by decide) hopening rest
    | cons c more =>
      have hc := isTagChar_of_isBlank (hblanks c (List.mem_cons_self ..))
      exact List.dropWhile_cons_of_neg (by simp [hc])
  rw [afterFenceLine?, List.dropWhile_append_of_pos htag, hstop,
    List.dropWhile_append_of_pos hblanks,
    dropWhile_lineEnd (by decide) (by decide) hopening rest, afterLineEnd?_append hopening]

/-- An opening fence is taken away with its whole line. -/
theorem dropOpening_line (htag : ∀ c ∈ tag, isTagChar c = true)
    (hblanks : ∀ c ∈ blanks, isBlank c = true) (hopening : IsLineEnd opening) (rest : Text) :
    dropOpening (ticks ++ (tag ++ (blanks ++ (opening ++ rest)))) = rest := by
  have hticks : Text.dropStart? ticks (ticks ++ (tag ++ (blanks ++ (opening ++ rest)))) =
      some (tag ++ (blanks ++ (opening ++ rest))) := Text.dropStart?_eq_some_iff.mpr rfl
  simp only [dropOpening, hticks, afterFenceLine?_line htag hblanks hopening, Option.getD_some]

/-! ## 3. The closing fence -/

/-- Backwards, a line end is taken away, and no more unless a carriage return follows. -/
theorem dropLineEndBackwards_append (hclosing : IsLineEnd closing)
    (hrest : rest.head? ≠ some '\r') :
    dropLineEndBackwards (closing.reverse ++ rest) = rest := by
  rcases hclosing with rfl | rfl
  · cases rest with
    | nil => rfl
    | cons c more =>
      have hc : c ≠ ⟨0x0D⟩ := fun hsame => hrest (by rw [hsame]; rfl)
      change dropLineEndBackwards (⟨0x0A⟩ :: c :: more) = c :: more
      unfold dropLineEndBackwards
      split
      · next heq =>
        obtain ⟨rfl, -⟩ := List.cons.inj (List.cons.inj heq).2
        exact absurd rfl hc
      · next heq => exact (List.cons.inj heq).2.symm
      · next heq => exact absurd (List.cons.inj heq).1 (by decide)
      · next hfeed _ => exact absurd rfl (hfeed _)
  · rfl

/-- What is taken away backwards is whitespace. -/
theorem dropLineEndBackwards_cut (t : Text) :
    ∃ front, t = front ++ dropLineEndBackwards t ∧ ∀ c ∈ front, c.isSpace = true := by
  unfold dropLineEndBackwards
  split
  · exact ⟨[⟨0x0A⟩, ⟨0x0D⟩], rfl, by decide⟩
  · exact ⟨[⟨0x0A⟩], rfl, by decide⟩
  · exact ⟨[⟨0x0D⟩], rfl, by decide⟩
  · exact ⟨[], rfl, by simp⟩

theorem ticks_reverse : ticks.reverse = ticks := by
  decide

/-- What a closing fence leaves of the text before it, told backwards. -/
theorem dropClosing_append_ticks (t : Text) :
    dropClosing (t ++ ticks) = (dropLineEndBackwards t.reverse).reverse := by
  have hdrop : Text.dropStart? ticks (t ++ ticks).reverse = some t.reverse :=
    Text.dropStart?_eq_some_iff.mpr (by rw [List.reverse_append, ticks_reverse])
  simp only [dropClosing, hdrop]

/-- Where there is no closing fence, nothing is taken away. -/
theorem dropClosing_of_not_suffix (h : ¬ ticks <:+ t) : dropClosing t = t := by
  have hnone : Text.dropStart? ticks t.reverse = none := by
    refine Option.eq_none_iff_forall_ne_some.mpr fun rest hrest => h ?_
    have hreverse := Text.dropStart?_eq_some_iff.mp hrest
    rw [← List.reverse_prefix, ticks_reverse]
    exact ⟨rest, hreverse.symm⟩
  simp only [dropClosing, hnone]

/-- A closing fence is taken away with the line end before it. -/
theorem dropClosing_line (hclosing : IsLineEnd closing) (hbody : body.getLast? ≠ some '\r') :
    dropClosing (body ++ (closing ++ ticks)) = body := by
  have hrest : body.reverse.head? ≠ some '\r' := by simpa using hbody
  rw [← List.append_assoc, dropClosing_append_ticks, List.reverse_append,
    dropLineEndBackwards_append hclosing hrest, List.reverse_reverse]

/-- No whitespace ends a text with a fence at its end. -/
theorem stripEnd_append_ticks (t : Text) : Text.stripEnd (t ++ ticks) = t ++ ticks := by
  have hlast : t ++ ticks = (t ++ "``" : Text) ++ [('`' : CodePoint)] := by
    simp [ticks, Text.ofString]
  rw [hlast]
  exact Text.trimEnd_concat (by decide)

/-! ## 4. The whole reply -/

/-- A text in a code fence. -/
def fenced (tag blanks opening body closing : Text) : Text :=
  ticks ++ (tag ++ (blanks ++ (opening ++ (body ++ (closing ++ ticks)))))

/-- A text between backticks has no outer whitespace. -/
theorem strip_between_ticks (t : Text) :
    Text.strip (ticks ++ (t ++ ticks)) = ticks ++ (t ++ ticks) := by
  have hstart : Text.stripStart (ticks ++ (t ++ ticks)) = ticks ++ (t ++ ticks) :=
    Text.stripStart_cons (by decide)
  rw [Text.strip, hstart, ← List.append_assoc]
  exact stripEnd_append_ticks (ticks ++ t)

/-- **A fenced reply gives back exactly the text in the fence**, whatever whitespace is around
it. -/
theorem stripFences_fenced {before after : Text} (hbefore : ∀ c ∈ before, c.isSpace = true)
    (htag : ∀ c ∈ tag, isTagChar c = true) (hblanks : ∀ c ∈ blanks, isBlank c = true)
    (hopening : IsLineEnd opening) (hbody : body.strip = body) (hclosing : IsLineEnd closing)
    (hafter : ∀ c ∈ after, c.isSpace = true) :
    stripFences (before ++ fenced tag blanks opening body closing ++ after) = body := by
  have hstrip : Text.strip (before ++ fenced tag blanks opening body closing ++ after) =
      fenced tag blanks opening body closing := by
    rw [Text.strip_padded hbefore hafter]
    have htight := strip_between_ticks (tag ++ (blanks ++ (opening ++ (body ++ closing))))
    simpa only [fenced, List.append_assoc] using htight
  have hlast : body.getLast? ≠ some '\r' := fun hreturn => by
    rw [← hbody] at hreturn
    exact absurd (Text.isSpace_of_getLast?_strip hreturn) (by decide)
  calc stripFences (before ++ fenced tag blanks opening body closing ++ after)
      = (dropClosing (dropOpening (fenced tag blanks opening body closing))).strip := by
        rw [stripFences, hstrip]
    _ = (dropClosing (body ++ (closing ++ ticks))).strip := by
        rw [fenced, dropOpening_line htag hblanks hopening]
    _ = body.strip := by rw [dropClosing_line hclosing hlast]
    _ = body := hbody

/-- A text that starts and ends with fences of its own. -/
def fencedSample : Text :=
  "```\nint x;\n```"

/-- It is taken out of a fence with a tag, blanks and line ends of either kind. -/
theorem stripFences_fenced_sample :
    fencedSample.strip = fencedSample ∧
    stripFences ("\n " ++ fenced "c++" " \t" "\r\n" fencedSample "\n" ++ "\r\n") =
      fencedSample := by
  have hbody : fencedSample.strip = fencedSample := by decide
  exact ⟨hbody, stripFences_fenced (by decide) (by decide) (by decide) (.inr rfl) hbody (.inl rfl)
    (by decide)⟩

end LintMend.Fence
