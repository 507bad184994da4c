/-
LintMend.Proofs.Reply.Codeless — replies that open a fence and bring no code.

Such a reply is an opening fence line and whitespace, and the closing fence may be there or not.
With the closing fence nothing is left of it, and the attempt ends as one without usable content.
Without it the trimming takes away the line end of the opening line, which is then no whole line
any more, so that its tag is left. A tag that is not empty is then taken for the file.

  `CodelessReply`             — the replies
  `stripFences_text`          — what is left of them
  `fixDiagnostic_of_nothing`  — an attempt that is answered by nothing usable
  `codeless_dropped_iff`      — nothing is left exactly if the fence is closed or has no tag
  `codeless_tag_left`         — a tag can be left
-/
import LintMend.Proofs.Fixing.Counts
import LintMend.Proofs.Reply.Fenced

namespace LintMend

/-! ## 1. Blank and solid text -/

namespace Text

variable {t : Text}

theorem strip_of_blank (h : ∀ c ∈ t, c.isSpace = true) : t.strip = [] := by
  have hstart : t.stripStart = [] := List.dropWhile_eq_nil_iff.mpr h
  rw [strip, hstart]
  rfl

/-- Text without whitespace has none at its ends. -/
theorem strip_of_solid (h : ∀ c ∈ t, c.isSpace = false) : t.strip = t :=
  strip_eq_self (fun c hc => h c (List.mem_of_head? hc)) fun c hc => h c (List.mem_of_getLast? hc)

end Text

namespace Fence

variable {c : CodePoint} {t : Text}

/-- All whitespace. -/
def spaceValues : List Nat :=
  [0x09, 0x0A, 0x0B, 0x0C, 0x0D, 0x1C, 0x1D, 0x1E, 0x1F, 0x20, 0x85, 0xA0, 0x1680, 0x2000, 0x2001,
    0x2002, 0x2003, 0x2004, 0x2005, 0x2006, 0x2007, 0x2008, 0x2009, 0x200A, 0x2028, 0x2029, 0x202F,
    0x205F, 0x3000]

theorem mem_spaceValues (h : c.isSpace = true) : c.val ∈ spaceValues := by
  simp only [CodePoint.isSpace, Bool.or_eq_true, Bool.and_eq_true, decide_eq_true_eq,
    beq_iff_eq] at h
  simp only [spaceValues, List.mem_cons, List.not_mem_nil]
  omega

/-- No whitespace stands in a tag. -/
theorem isSpace_of_isTagChar (h : isTagChar c = true) : c.isSpace = false := by
  have hspaces : ∀ n ∈ spaceValues, isTagChar ⟨n⟩ = false := by decide +kernel
  cases hspace : c.isSpace with
  | false => rfl
  | true => exact absurd h (by simp [hspaces c.val (mem_spaceValues hspace)])

theorem isSpace_of_isBlank (h : isBlank c = true) : c.isSpace = true := by
  simp only [isBlank, Bool.or_eq_true, beq_iff_eq] at h
  simp only [CodePoint.isSpace, Bool.or_eq_true, Bool.and_eq_true, decide_eq_true_eq, beq_iff_eq]
  omega

theorem isSpace_of_isLineEnd {lineEnd : Text} (h : IsLineEnd lineEnd) :
    ∀ c ∈ lineEnd, c.isSpace = true := by
  rcases h with rfl | rfl <;> decide

/-! ## 2. What is left of a fence -/

/-- A closing fence after whitespace leaves whitespace. -/
theorem isSpace_of_mem_dropClosing (ht : ∀ c ∈ t, c.isSpace = true)
    (h : c ∈ dropClosing (t ++ ticks)) : c.isSpace = true := by
  obtain ⟨front, hfront, -⟩ := dropLineEndBackwards_cut t.reverse
  rw [dropClosing_append_ticks, List.mem_reverse] at h
  have hmem : c ∈ t.reverse := by
    rw [hfront]
    exact List.mem_append_right front h
  exact ht c (List.mem_reverse.mp hmem)

/-- A tag without a line end is no fence line: only the backticks before it are taken away. -/
theorem dropOpening_tag (h : ∀ c ∈ t, isTagChar c = true) : dropOpening (ticks ++ t) = t := by
  have hdrop : Text.dropStart? ticks (ticks ++ t) = some t := Text.dropStart?_eq_some_iff.mpr rfl
  have hrest : t.dropWhile isTagChar = [] := List.dropWhile_eq_nil_iff.mpr h
  have hline : afterFenceLine? t = none := by
    rw [afterFenceLine?, hrest]
    rfl
  simp only [dropOpening, hdrop, hline, Option.getD_none]

/-- No backtick stands in a tag. -/
theorem dropClosing_tag (h : ∀ c ∈ t, isTagChar c = true) : dropClosing t = t := by
  refine dropClosing_of_not_suffix fun hend => ?_
  have hmem : ('`' : CodePoint) ∈ t := hend.subset (by decide)
  exact absurd (h _ hmem) (by decide)

end Fence

/-! ## 3. Replies without code -/

/-- A reply that is a fence line and whitespace, with or without a closing fence. -/
structure CodelessReply where
  before : Text
  tag : Text
  blanks : Text
  lineEnd : Text
  body : Text
  closed : Bool
  after : Text
  before_blank : ∀ c ∈ before, c.isSpace = true
  tag_chars : ∀ c ∈ tag, Fence.isTagChar c = true
  blanks_blank : ∀ c ∈ blanks, Fence.isBlank c = true
  line_end : Fence.IsLineEnd lineEnd
  body_blank : ∀ c ∈ body, c.isSpace = true
  after_blank : ∀ c ∈ after, c.isSpace = true

namespace CodelessReply

open Fence

/-- The closing fence, if there is one. -/
def closing (r : CodelessReply) : Text :=
  if r.closed then ticks else []

/-- The reply. -/
def text (r : CodelessReply) : Text :=
  r.before ++ (ticks ++ (r.tag ++ (r.blanks ++ (r.lineEnd ++ (r.body ++ r.closing))))) ++ r.after

theorem stripFences_of_closed {r : CodelessReply} (h : r.closed = true) :
    stripFences r.text = [] := by
  have htext : r.text = r.before ++
      (ticks ++ ((r.tag ++ (r.blanks ++ (r.lineEnd ++ r.body))) ++ ticks)) ++ r.after := by
    simp [text, closing, h]
  have hstrip : r.text.strip =
      ticks ++ (r.tag ++ (r.blanks ++ (r.lineEnd ++ (r.body ++ ticks)))) := by
    rw [htext, Text.strip_padded r.before_blank r.after_blank, strip_between_ticks]
    simp
  rw [stripFences, hstrip, dropOpening_line r.tag_chars r.blanks_blank r.line_end]
  exact Text.strip_of_blank fun c hc => isSpace_of_mem_dropClosing r.body_blank hc

theorem stripFences_of_open {r : CodelessReply} (h : r.closed = false) :
    stripFences r.text = r.tag := by
  have htag : ∀ c ∈ r.tag, c.isSpace = false := fun c hc => isSpace_of_isTagChar (r.tag_chars c hc)
  have hrest : ∀ c ∈ r.blanks ++ r.lineEnd ++ r.body ++ r.after, c.isSpace = true := by
    simp only [List.forall_mem_append]
    exact ⟨⟨⟨fun c hc => isSpace_of_isBlank (r.blanks_blank c hc),
      isSpace_of_isLineEnd r.line_end⟩, r.body_blank⟩, r.after_blank⟩
  have htext : r.text =
      r.before ++ (ticks ++ r.tag) ++ (r.blanks ++ r.lineEnd ++ r.body ++ r.after) := by
    simp [text, closing, h]
  have hsolid : ∀ c ∈ ticks ++ r.tag, c.isSpace = false :=
    List.forall_mem_append.mpr ⟨by decide, htag⟩
  have hstrip : r.text.strip = ticks ++ r.tag := by
    rw [htext, Text.strip_padded r.before_blank hrest, Text.strip_of_solid hsolid]
  rw [stripFences, hstrip, dropOpening_tag r.tag_chars, dropClosing_tag r.tag_chars,
    Text.strip_of_solid htag]

/-- **A closed fence leaves nothing, an open one its tag.** -/
theorem stripFences_text (r : CodelessReply) :
    stripFences r.text = if r.closed then [] else r.tag := by
  cases h : r.closed with
  | true => simpa using stripFences_of_closed h
  | false => simpa using stripFences_of_open h

theorem stripFences_text_eq_nil_iff (r : CodelessReply) :
    stripFences r.text = [] ↔ r.closed = true ∨ r.tag = [] := by
  rw [stripFences_text]
  cases r.closed <;> simp

end CodelessReply

/-! ## 4. Attempts -/

namespace Fixer

variable {σ : Type} {f : Fixer σ} {w w' : World σ} {s s' : Session} {d : Diagnostic} {o : Outcome}
  {text : Text}

/-- An attempt finds its file, and its request is answered by an envelope with a text. -/
structure AnsweredBy (f : Fixer σ) (w : World σ) (s : Session) (d : Diagnostic) (text : Text) :
    Prop where
  there : f.files.isThere w.othersAct.tree s.path = .ok true
  reply : ∃ value envelope,
    (f.service.answer w.service (Prompt.text d s.current)).result = .ok value ∧
    (Envelope.check value).2 = .ok envelope ∧ envelope.response = text

theorem AnsweredBy.replyContent (h : f.AnsweredBy w s d text) : ∃ value,
    (f.service.answer w.service (Prompt.text d s.current)).result = .ok value ∧
    (LintMend.replyContent value).2 = .ok (Fence.stripFences text) := by
  obtain ⟨value, envelope, hvalue, hcheck, rfl⟩ := h.reply
  exact ⟨value, hvalue, replyContent_eq_ok_iff.mpr ⟨envelope, hcheck, rfl⟩⟩

/-- The request of such an attempt is asked in the world after others have acted. -/
theorem AnsweredBy.request (h : f.AnsweredBy w s d text) : ∃ asked result,
    f.request w.othersAct s d = (asked, result) ∧
    asked.tree = (f.service.answer w.service (Prompt.text d s.current)).change w.othersAct.tree ∧
    result = if Fence.stripFences text = [] then
        .error (.emptyReply "Generation service returned no usable content")
      else .ok (Fence.stripFences text) := by
  obtain ⟨value, hvalue, hcontent⟩ := h.replyContent
  rcases hasked : f.request w.othersAct s d with ⟨asked, result⟩
  have hrequest := asked_of_request hasked
  have htree := hrequest.tree
  have hresult := hrequest.result
  rw [World.othersAct_service] at htree hresult
  refine ⟨asked, result, rfl, htree, ?_⟩
  rw [hresult, hvalue, usableContent]
  split
  · next hreply => simp [hreply] at hcontent
  · next content hreply =>
    obtain rfl : content = Fence.stripFences text := by simpa [hreply] using hcontent
    cases hempty : Fence.stripFences text <;> simp

/-- **An answer of which nothing is left ends an attempt** with that status; the session keeps its
content, and the tree is as the service left it. -/
theorem fixDiagnostic_of_nothing (h : f.AnsweredBy w s d text)
    (hnothing : Fence.stripFences text = []) : ∃ w' s' o,
      f.fixDiagnostic w s d = (w', .ok (s', o)) ∧ o.status = .emptyFix ∧ s'.current = s.current ∧
      w'.tree =
        (f.service.answer w.service (Prompt.text d s.current)).change w.othersAct.tree := by
  obtain ⟨asked, result, hasked, htree, rfl⟩ := h.request
  rw [if_pos hnothing] at hasked
  have hattempt := Attempted.refused h.there hasked (by simp)
  exact ⟨_, _, _, fixDiagnostic_eq_ok_iff.mpr hattempt, rfl, rfl,
    (logs_failAnswer f asked s d _).tree.trans htree⟩

/-- An attempt that is answered by something never ends as an empty one, and if it succeeds that is
the content it goes on with. -/
theorem status_of_something (h : f.AnsweredBy w s d text)
    (hsomething : Fence.stripFences text ≠ [])
    (hend : f.fixDiagnostic w s d = (w', .ok (s', o))) :
    o.status ≠ .emptyFix ∧ (o.succeeded = true → s'.current = Fence.stripFences text) := by
  obtain ⟨asked, result, hasked, -, rfl⟩ := h.request
  rw [if_neg hsomething] at hasked
  cases fixDiagnostic_eq_ok_iff.mp hend with
  | missing hthere => simp [h.there] at hthere
  | refused _ hrefused => simp [hasked] at hrefused
  | simulated _ hasked' =>
    obtain ⟨rfl, hcontent⟩ := Prod.mk.inj (hasked.symm.trans hasked')
    obtain rfl := Except.ok.inj hcontent
    exact ⟨by simp, fun _ => rfl⟩
  | unwritten => exact ⟨by simp, by simp [Outcome.succeeded, Status.succeeded]⟩
  | written _ hasked' =>
    obtain ⟨rfl, hcontent⟩ := Prod.mk.inj (hasked.symm.trans hasked')
    obtain rfl := Except.ok.inj hcontent
    exact ⟨by simp, fun _ => rfl⟩

/-- **Nothing is left of a reply without code exactly if its fence is closed or has no tag.** Then
the attempt that it answers is one without usable content, which changes neither the session's
content nor the file. Otherwise the tag is what the attempt takes for the file. -/
theorem codeless_dropped_iff (r : CodelessReply) :
    (Fence.stripFences r.text = [] ↔ r.closed = true ∨ r.tag = []) ∧
    (r.closed = true ∨ r.tag = [] → f.AnsweredBy w s d r.text → ∃ w' s' o,
      f.fixDiagnostic w s d = (w', .ok (s', o)) ∧ o.status = .emptyFix ∧ s'.current = s.current ∧
      w'.tree =
        (f.service.answer w.service (Prompt.text d s.current)).change w.othersAct.tree) ∧
    (¬ (r.closed = true ∨ r.tag = []) → Fence.stripFences r.text = r.tag ∧
      (f.AnsweredBy w s d r.text → ∀ w' s' o, f.fixDiagnostic w s d = (w', .ok (s', o)) →
        o.status ≠ .emptyFix ∧ (o.succeeded = true → s'.current = r.tag))) := by
  have hnil := r.stripFences_text_eq_nil_iff
  refine ⟨hnil, fun hdropped h => fixDiagnostic_of_nothing h (hnil.mpr hdropped), fun hleft => ?_⟩
  have hopen : r.closed = false := by simpa using (not_or.mp hleft).1
  have htag := CodelessReply.stripFences_of_open hopen
  refine ⟨htag, fun h w' s' o hend => ?_⟩
  rw [← htag]
  exact status_of_something h (mt hnil.mp hleft) hend

/-- A fence with a tag that is opened and closed. -/
def closedFence : CodelessReply where
  before := "\n"
  tag := "java"
  blanks := " \t"
  lineEnd := "\r\n"
  body := " \n"
  closed := true
  after := "\n"
  before_blank := by decide
  tag_chars := by decide
  blanks_blank := by decide
  line_end := .inr rfl
  body_blank := by decide
  after_blank := by decide

/-- The same without the closing fence. -/
def openFence : CodelessReply :=
  { closedFence with closed := false }

/-- A world with a file in which a reply is prepared. -/
def fencedWorld (r : CodelessReply) : World (List Reply) :=
  { sampleWorld with service := [{ result := .ok (.object [("response", .string r.text)]) }] }

theorem answeredBy_fenced (r : CodelessReply) :
    sampleFixer.AnsweredBy (fencedWorld r) (.start "A" "a") sampleFinding r.text :=
  ⟨by cbv, _, ⟨r.text, none, none⟩, rfl, rfl, rfl⟩

set_option maxRecDepth 8000 in
/-- The attempt that the open fence answers puts the tag into the file. -/
theorem fixDiagnostic_openFence : ∃ w' s',
    sampleFixer.fixDiagnostic (fencedWorld openFence) (.start "A" "a") sampleFinding =
      (w', .ok (s', ⟨sampleFinding, .applied, none⟩)) ∧
    sampleFixer.files.read w'.tree "A" = .ok "java" := by
  -- The attempt is evaluated once, for its outcome and for what it leaves of the file.
  have hend : (fun step : World (List Reply) × Except Failure (Session × Outcome) =>
      (step.2.map (·.2), sampleFixer.files.read step.1.tree "A"))
        (sampleFixer.fixDiagnostic (fencedWorld openFence) (.start "A" "a") sampleFinding) =
      (.ok ⟨sampleFinding, .applied, none⟩, .ok "java") := by cbv
  generalize sampleFixer.fixDiagnostic (fencedWorld openFence) (.start "A" "a") sampleFinding =
    step at hend ⊢
  obtain ⟨w', failure | ⟨s', o⟩⟩ := step
  · simp [Except.map] at hend
  · obtain ⟨hresult, hread⟩ := Prod.mk.inj hend
    obtain rfl := Except.ok.inj hresult
    exact ⟨w', s', rfl, hread⟩

/-- Both kinds of attempt, with and without the closing fence. -/
theorem codeless_dropped_iff_java :
    (∃ w' s' o, sampleFixer.fixDiagnostic (fencedWorld closedFence) (.start "A" "a") sampleFinding =
        (w', .ok (s', o)) ∧ o.status = .emptyFix ∧ s'.current = "a" ∧ w'.tree = sampleTree) ∧
    ¬ (openFence.closed = true ∨ openFence.tag = []) ∧
    ∃ w' s' o, sampleFixer.fixDiagnostic (fencedWorld openFence) (.start "A" "a") sampleFinding =
        (w', .ok (s', o)) ∧ o.status ≠ .emptyFix ∧ s'.current = "java" := by
  have hclosed := (codeless_dropped_iff closedFence).2.1 (.inl rfl) (answeredBy_fenced closedFence)
  have hopen : ¬ (openFence.closed = true ∨ openFence.tag = []) := by decide
  obtain ⟨w', s', hend, -⟩ := fixDiagnostic_openFence
  obtain ⟨hstatus, hcurrent⟩ :=
    ((codeless_dropped_iff openFence).2.2 hopen).2 (answeredBy_fenced openFence) w' s' _ hend
  exact ⟨hclosed, hopen, w', s', _, hend, hstatus, hcurrent rfl⟩

/-- **The tag of a fence that is not closed is left**, and it takes the place of the file. -/
theorem codeless_tag_left : ¬ (∀ r : CodelessReply, Fence.stripFences r.text = []) ∧
    ∃ w' s' o, sampleFixer.fixDiagnostic (fencedWorld openFence) (.start "A" "a") sampleFinding =
      (w', .ok (s', o)) ∧ o.status = .applied ∧
      sampleFixer.files.read w'.tree "A" = .ok "java" := by
  obtain ⟨w', s', hend, hread⟩ := fixDiagnostic_openFence
  refine ⟨fun h => ?_, w', s', _, hend, rfl, hread⟩
  have htag : openFence.tag = [] := (CodelessReply.stripFences_of_open rfl).symm.trans (h openFence)
  exact absurd htag (by decide)

end Fixer

end LintMend
