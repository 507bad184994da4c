/-
LintMend.Proofs.Reply.Unwrapping — what is taken away from a reply, told for every text.

A reply is taken apart into whitespace, an opening fence, what is kept, a closing fence and
whitespace, with more whitespace between the fences and what is kept. The fences are looked for in
the text without outer whitespace: the opening one at its start, and the closing one at the end of
what follows the opening one, so that the same backticks never count for both. There is one way to
take a text apart like this, and what is kept then is what is left of the reply.

  `IsFenceLine`, `afterFenceLine?_eq_some_iff` — the rest of a fence line
  `Opening`, `opening_dropOpening`             — the opening fence, and what follows it
  `Closing`, `dropClosing_cut`                 — the closing fence, and what stands before it
  `Wrapping`                                   — a text in its parts
  `stripFences_wrapping`                       — every text has them, and the rest is kept

The whitespace before an opening fence cannot be told from that behind it if there is no opening
fence, and the same goes for the end. So it is not the parts that are unique, but what is kept.
-/
import LintMend.Proofs.Reply.Fenced

namespace LintMend.Fence

variable {t u line rest opening closing : Text}

/-! ## 1. The opening fence -/

theorem ticks_ne_nil : ticks ≠ [] :=
  List.cons_ne_nil _ _

theorem afterLineEnd?_eq_some_iff :
    afterLineEnd? t = some rest ↔ ∃ lineEnd, IsLineEnd lineEnd ∧ t = lineEnd ++ rest := by
  constructor
  · intro h
    unfold afterLineEnd? at h
    split at h
    · obtain rfl := Option.some.inj h
      exact ⟨"\n", .inl rfl, rfl⟩
    · obtain rfl := Option.some.inj h
      exact ⟨"\r\n", .inr rfl, rfl⟩
    · exact nomatch h
  · rintro ⟨lineEnd, hend, rfl⟩
    exact afterLineEnd?_append hend rest

/-- What stands behind the backticks on the line of an opening fence: a tag, blanks and a line
end. -/
def IsFenceLine (line : Text) : Prop :=
  ∃ tag blanks lineEnd, line = tag ++ (blanks ++ lineEnd) ∧ (∀ c ∈ tag, isTagChar c = true) ∧
    (∀ c ∈ blanks, isBlank c = true) ∧ IsLineEnd lineEnd

theorem afterFenceLine?_eq_some_iff :
    afterFenceLine? t = some rest ↔ ∃ line, IsFenceLine line ∧ t = line ++ rest := by
  constructor
  · intro h
    obtain ⟨lineEnd, hend, hrest⟩ := afterLineEnd?_eq_some_iff.mp h
    have htag : t = t.takeWhile isTagChar ++ t.dropWhile isTagChar :=
      List.takeWhile_append_dropWhile.symm
    have hblanks : t.dropWhile isTagChar =
        (t.dropWhile isTagChar).takeWhile isBlank ++ (lineEnd ++ rest) := by
      rw [← hrest]
      exact List.takeWhile_append_dropWhile.symm
    refine ⟨_, ⟨_, _, lineEnd, rfl, fun c => List.mem_takeWhile_imp (l := t),
      fun c => List.mem_takeWhile_imp (l := t.dropWhile isTagChar), hend⟩, ?_⟩
    rw [List.append_assoc, List.append_assoc, ← hblanks, ← htag]
  · rintro ⟨-, ⟨tag, blanks, lineEnd, rfl, htag, hblanks, hend⟩, rfl⟩
    simpa using afterFenceLine?_line htag hblanks hend rest

/-- The opening fence of a text and what follows it. The fence is missing, or it takes its line
with it, or it is the backticks alone if they are not followed by the rest of a fence line. -/
inductive Opening : Text → Text → Text → Prop
  | missing (t : Text) (hnone : ¬ ticks <+: t) : Opening t [] t
  | line (line rest : Text) (hline : IsFenceLine line) :
      Opening (ticks ++ (line ++ rest)) (ticks ++ line) rest
  | bare (rest : Text) (hnone : ∀ line, IsFenceLine line → ¬ line <+: rest) :
      Opening (ticks ++ rest) ticks rest

theorem opening_dropOpening (t : Text) : ∃ opening, Opening t opening (dropOpening t) := by
  rw [dropOpening]
  cases hdrop : Text.dropStart? ticks t with
  | none =>
    refine ⟨[], .missing t fun hstart => ?_⟩
    obtain ⟨rest, hrest⟩ := hstart
    have hsome : Text.dropStart? ticks t = some rest :=
      Text.dropStart?_eq_some_iff.mpr hrest.symm
    simp [hdrop] at hsome
  | some rest =>
    obtain rfl := Text.dropStart?_eq_some_iff.mp hdrop
    show ∃ opening, Opening (ticks ++ rest) opening ((afterFenceLine? rest).getD rest)
    cases hline : afterFenceLine? rest with
    | none =>
      refine ⟨ticks, .bare rest fun line hfence hstart => ?_⟩
      obtain ⟨more, hmore⟩ := hstart
      have hsome := afterFenceLine?_eq_some_iff.mpr ⟨line, hfence, hmore.symm⟩
      simp [hline] at hsome
    | some more =>
      obtain ⟨line, hfence, rfl⟩ := afterFenceLine?_eq_some_iff.mp hline
      exact ⟨ticks ++ line, .line line more hfence⟩

namespace Opening

theorem text_eq (h : Opening t opening rest) : t = opening ++ rest := by
  cases h <;> simp

theorem ne_nil_iff (h : Opening t opening rest) : opening ≠ [] ↔ ticks <+: t := by
  cases h with
  | missing _ hnone => simp [hnone]
  | line => simp [ticks_ne_nil]
  | bare => simp [ticks_ne_nil]

/-- An opening fence is missing, or starts with a backtick. -/
theorem eq_nil_or_cons (h : Opening t opening rest) :
    opening = [] ∨ ∃ more, opening = ('`' : CodePoint) :: more := by
  cases h with
  | missing => exact .inl rfl
  | line line => exact .inr ⟨_, rfl⟩
  | bare => exact .inr ⟨_, rfl⟩

/-- What follows the opening fence is what is left when it is dropped. -/
theorem rest_eq (h : Opening t opening rest) : rest = dropOpening t := by
  rw [dropOpening]
  cases h with
  | missing _ hnone =>
    have hdrop : Text.dropStart? ticks t = none := by
      refine Option.eq_none_iff_forall_ne_some.mpr fun rest hrest => hnone ?_
      exact ⟨rest, (Text.dropStart?_eq_some_iff.mp hrest).symm⟩
    rw [hdrop]
  | line line rest hline =>
    have hsome : afterFenceLine? (line ++ rest) = some rest :=
      afterFenceLine?_eq_some_iff.mpr ⟨line, hline, rfl⟩
    rw [Text.dropStart?_eq_some_iff.mpr rfl]
    simp [hsome]
  | bare rest hnone =>
    rw [Text.dropStart?_eq_some_iff.mpr rfl]
    have hdrop : afterFenceLine? rest = none := by
      refine Option.eq_none_iff_forall_ne_some.mpr fun more hmore => ?_
      obtain ⟨line, hline, rfl⟩ := afterFenceLine?_eq_some_iff.mp hmore
      exact hnone line hline (List.prefix_append line more)
    simp [hdrop]

end Opening

/-! ## 2. The closing fence -/

/-- The closing fence of a text: the backticks at its end, or nothing if there are none. -/
inductive Closing (t : Text) : Text → Prop
  | missing (hnone : ¬ ticks <:+ t) : Closing t []
  | there (hend : ticks <:+ t) : Closing t ticks

namespace Closing

theorem ne_nil_iff (h : Closing t closing) : closing ≠ [] ↔ ticks <:+ t := by
  cases h with
  | missing hnone => simp [hnone]
  | there hend => simp [hend, ticks_ne_nil]

theorem eq_nil_or_eq (h : Closing t closing) : closing = [] ∨ closing = ticks := by
  cases h with
  | missing => exact .inl rfl
  | there => exact .inr rfl

theorem unique (h : Closing t closing) (h' : Closing t u) : closing = u := by
  cases h with
  | missing hnone =>
    cases h' with
    | missing => rfl
    | there hend => exact absurd hend hnone
  | there hend =>
    cases h' with
    | missing hnone => exact absurd hend hnone
    | there => rfl

end Closing

/-- **Dropping the closing fence** takes away the fence and whitespace before it. -/
theorem dropClosing_cut (t : Text) : ∃ spaces closing, Closing t closing ∧
    t = dropClosing t ++ (spaces ++ closing) ∧ ∀ c ∈ spaces, c.isSpace = true := by
  by_cases hend : ticks <:+ t
  · have hthere := Closing.there hend
    obtain ⟨body, rfl⟩ := hend
    obtain ⟨front, hfront, hblank⟩ := dropLineEndBackwards_cut body.reverse
    have hbody : body = (dropLineEndBackwards body.reverse).reverse ++ front.reverse := by
      rw [← List.reverse_append, ← hfront, List.reverse_reverse]
    refine ⟨front.reverse, ticks, hthere, ?_, by simpa using hblank⟩
    rw [dropClosing_append_ticks, ← List.append_assoc, ← hbody]
  · refine ⟨[], [], .missing hend, ?_, by simp⟩
    rw [dropClosing_of_not_suffix hend]
    simp

/-! ## 3. Texts between blanks -/

/-- Blanks, and text behind them that starts with something else. -/
theorem cancel_blanks_start {w w' : Text} {c d : CodePoint} (hw : ∀ c ∈ w, c.isSpace = true)
    (hw' : ∀ c ∈ w', c.isSpace = true) (hc : c.isSpace = false) (hd : d.isSpace = false)
    (h : w ++ c :: t = w' ++ d :: u) : c :: t = d :: u := by
  have hstart := congrArg Text.stripStart h
  rw [Text.stripStart_append_of_all hw, Text.stripStart_append_of_all hw',
    Text.stripStart_cons hc, Text.stripStart_cons hd] at hstart
  exact hstart

/-- A closing fence, and blanks behind it. -/
theorem cancel_ticks_end {z z' : Text} (hz : ∀ c ∈ z, c.isSpace = true)
    (hz' : ∀ c ∈ z', c.isSpace = true) (h : t ++ ticks ++ z = u ++ ticks ++ z') : t = u := by
  have hend := congrArg Text.stripEnd h
  have hleft : Text.stripEnd (t ++ ticks ++ z) = t ++ ticks :=
    (Text.trimEnd_append_of_all hz).trans (stripEnd_append_ticks t)
  have hright : Text.stripEnd (u ++ ticks ++ z') = u ++ ticks :=
    (Text.trimEnd_append_of_all hz').trans (stripEnd_append_ticks u)
  rw [hleft, hright] at hend
  exact List.append_cancel_right hend

/-! ## 4. The parts of a text -/

/-- A text in its parts: what is kept of it, and on either side of that blanks, a fence that may be
missing, and blanks. -/
structure Wrapping (t : Text) where
  before : Text
  opening : Text
  after : Text
  kept : Text
  ahead : Text
  closing : Text
  behind : Text
  /-- What follows the opening fence in the text without outer blanks. -/
  rest : Text
  text_eq : t = (before ++ opening ++ after) ++ kept ++ (ahead ++ closing ++ behind)
  before_blank : ∀ c ∈ before, c.isSpace = true
  after_blank : ∀ c ∈ after, c.isSpace = true
  ahead_blank : ∀ c ∈ ahead, c.isSpace = true
  behind_blank : ∀ c ∈ behind, c.isSpace = true
  starts : ∀ c, kept.head? = some c → c.isSpace = false
  ends : ∀ c, kept.getLast? = some c → c.isSpace = false
  opens : Opening t.strip opening rest
  closes : Closing rest closing

namespace Wrapping

/-- Every text has such parts, and what `stripFences` leaves is kept in them. -/
theorem exists_kept (t : Text) : ∃ w : Wrapping t, w.kept = stripFences t := by
  obtain ⟨before, behind, ht, hbefore, hbehind⟩ := t.strip_cut
  obtain ⟨opening, hopening⟩ := opening_dropOpening t.strip
  obtain ⟨spaces, closing, hclosing, hrest, hspaces⟩ := dropClosing_cut (dropOpening t.strip)
  obtain ⟨after, ahead, hbody, hafter, hahead⟩ := (dropClosing (dropOpening t.strip)).strip_cut
  have htext : t = (before ++ opening ++ after) ++ stripFences t ++
      ((ahead ++ spaces) ++ closing ++ behind) := by
    calc
      t = before ++ (opening ++ dropOpening t.strip) ++ behind := by rw [← hopening.text_eq, ← ht]
      _ = before ++ (opening ++ (dropClosing (dropOpening t.strip) ++ (spaces ++ closing))) ++
          behind := by rw [← hrest]
      _ = before ++ (opening ++ ((after ++ stripFences t ++ ahead) ++ (spaces ++ closing))) ++
          behind := by rw [stripFences, ← hbody]
      _ = _ := by simp only [List.append_assoc]
  exact ⟨{
    before, opening, after, kept := stripFences t, ahead := ahead ++ spaces, closing, behind
    rest := dropOpening t.strip
    text_eq := htext
    before_blank := hbefore
    after_blank := hafter
    ahead_blank := List.forall_mem_append.mpr ⟨hahead, hspaces⟩
    behind_blank := hbehind
    starts := fun c hc => Text.isSpace_of_head?_strip hc
    ends := fun c hc => Text.isSpace_of_getLast?_strip hc
    opens := hopening
    closes := hclosing }, rfl⟩

/-- Without the opening fence and the blanks that stand before it, the parts are what follows the
opening fence, up to blanks. -/
theorem exists_rest (w : Wrapping t) : ∃ p p' z, (∀ c ∈ p, c.isSpace = true) ∧
    (∀ c ∈ p', c.isSpace = true) ∧ (∀ c ∈ z, c.isSpace = true) ∧
    p ++ (w.after ++ w.kept ++ w.ahead) ++ w.closing ++ w.behind = p' ++ w.rest ++ z := by
  obtain ⟨p', z, ht, hp', hz⟩ := t.strip_cut
  have hboth : w.before ++ (w.opening ++ (w.after ++ w.kept ++ w.ahead ++ w.closing ++ w.behind)) =
      p' ++ (w.opening ++ (w.rest ++ z)) := by
    have htext := w.text_eq.symm.trans ht
    rw [w.opens.text_eq] at htext
    simpa only [List.append_assoc] using htext
  obtain hnil | ⟨more, hmore⟩ := w.opens.eq_nil_or_cons
  · refine ⟨w.before, p', z, w.before_blank, hp', hz, ?_⟩
    simpa [hnil] using hboth
  · refine ⟨[], [], z, by simp, by simp, hz, ?_⟩
    rw [hmore] at hboth
    have hcancel := cancel_blanks_start w.before_blank hp' (by decide) (by decide) hboth
    simpa using hcancel

/-- **What is kept is told by the text**: it is what `stripFences` leaves. -/
theorem kept_eq (w : Wrapping t) : w.kept = stripFences t := by
  obtain ⟨spaces, closing, hclosing, hrest, hspaces⟩ := dropClosing_cut w.rest
  obtain rfl := hclosing.unique w.closes
  obtain ⟨p, p', z, hp, hp', hz, hboth⟩ := w.exists_rest
  have hkept : ∀ {p z : Text}, (∀ c ∈ p, c.isSpace = true) → (∀ c ∈ z, c.isSpace = true) →
      Text.strip (p ++ (w.after ++ w.kept ++ w.ahead) ++ z) = w.kept := by
    intro p z hp hz
    rw [Text.strip_padded hp hz, Text.strip_padded w.after_blank w.ahead_blank]
    exact Text.strip_eq_self w.starts w.ends
  have hbody : ∀ {z : Text}, (∀ c ∈ z, c.isSpace = true) →
      Text.strip (p' ++ (dropClosing w.rest ++ spaces) ++ z) = (dropClosing w.rest).strip := by
    intro z hz
    rw [Text.strip_padded hp' hz]
    simpa using Text.strip_padded (w := []) (t := dropClosing w.rest) (by simp) hspaces
  have hleft : stripFences t = (dropClosing w.rest).strip := by
    rw [stripFences, ← w.opens.rest_eq]
  rw [hleft]
  rw [hrest] at hboth
  -- without a closing fence the two texts are the same, with one its ticks are cancelled
  obtain hclosing | hclosing := w.closes.eq_nil_or_eq
  · rw [hclosing] at hboth
    rw [← hkept hp w.behind_blank, ← hbody hz]
    exact congrArg Text.strip (by simpa using hboth)
  · rw [hclosing] at hboth
    have hcancel : p ++ (w.after ++ w.kept ++ w.ahead) =
        p' ++ (dropClosing w.rest ++ spaces) := by
      refine cancel_ticks_end w.behind_blank hz ?_
      simpa only [List.append_assoc] using hboth
    have hstrip := congrArg Text.strip hcancel
    have hnil : ∀ c ∈ ([] : Text), c.isSpace = true := by simp
    rw [← hkept hp hnil, ← hbody hnil, List.append_nil, List.append_nil]
    exact hstrip

end Wrapping

/-- **Nothing is lost but one fence on either side and whitespace.** Every text is what is kept of
it between blanks and fences; there is an opening fence exactly if the text without outer blanks
starts with three backticks, and a closing one exactly if what follows the opening fence ends with
three. What is kept is the same however the text is taken apart, and it is the whole text but for
outer blanks if there is no fence at either end. -/
theorem stripFences_wrapping (t : Text) :
    (∃ w : Wrapping t, w.kept = stripFences t ∧ t.strip = w.opening ++ w.rest ∧
      (w.opening ≠ [] ↔ ticks <+: t.strip) ∧ (w.closing ≠ [] ↔ ticks <:+ w.rest)) ∧
    (∀ w : Wrapping t, w.kept = stripFences t) ∧
    (¬ ticks <+: t.strip → ¬ ticks <:+ t.strip → stripFences t = t.strip) := by
  obtain ⟨w, hw⟩ := Wrapping.exists_kept t
  refine ⟨⟨w, hw, w.opens.text_eq, w.opens.ne_nil_iff, w.closes.ne_nil_iff⟩,
    Wrapping.kept_eq, fun hstart hend => ?_⟩
  have hopening : dropOpening t.strip = t.strip := (Opening.missing t.strip hstart).rest_eq.symm
  obtain ⟨spaces, closing, hclosing, hrest, hspaces⟩ := dropClosing_cut t.strip
  obtain rfl : closing = [] := hclosing.unique (.missing hend)
  calc
    stripFences t = (dropClosing t.strip).strip := by rw [stripFences, hopening]
    _ = Text.strip ([] ++ dropClosing t.strip ++ spaces) :=
        (Text.strip_padded (by simp) hspaces).symm
    _ = t.strip.strip := by
        rw [List.append_nil] at hrest
        rw [List.nil_append, ← hrest]
    _ = t.strip := t.strip_strip

/-- Five backticks open a fence, and the two that follow do not close it. -/
example : stripFences "`````" = "``" := by decide

/-- Fences and backticks within a text stay. -/
theorem stripFences_wrapping_inner :
    ¬ ticks <+: Text.strip "\n``a``\n```b```; \n" ∧ ¬ ticks <:+ Text.strip "\n``a``\n```b```; \n" ∧
      stripFences "\n``a``\n```b```; \n" = "``a``\n```b```;" := by
  have hstart : ¬ ticks <+: Text.strip "\n``a``\n```b```; \n" := by decide
  have hend : ¬ ticks <:+ Text.strip "\n``a``\n```b```; \n" := by decide
  have hkept := (stripFences_wrapping "\n``a``\n```b```; \n").2.2 hstart hend
  exact ⟨hstart, hend, hkept.trans (by decide)⟩

end LintMend.Fence
