/-
LintMend.Proofs.Reply.Usable — which replies bring a file content.

A reply is usable if it is an acceptable envelope and something is left of its text once fences and
outer whitespace are gone. What is left then is more than whitespace. A reply that is not usable is
malformed or empty, never the operator's stop.

  `usableContent_eq_ok_iff`       — the usable replies and what they bring
  `isBlank_of_usable`             — usable content is not blank
  `usableContent_interrupted_iff` — where the operator's stop comes from
-/
import LintMend.Fixing.Run

namespace LintMend

/-! ## 1. Blank text -/

namespace Text

/-- Trimming at the end leaves nothing, or something that the test keeps. -/
theorem exists_of_trimEnd_ne_nil {drop : CodePoint → Bool} {t : Text}
    (h : t.trimEnd drop ≠ []) : ∃ c ∈ t.trimEnd drop, drop c = false := by
  have hrest : t.reverse.dropWhile drop ≠ [] := by simpa [trimEnd] using h
  refine ⟨(t.reverse.dropWhile drop).head hrest, ?_, List.head_dropWhile_not drop hrest⟩
  rw [trimEnd, List.mem_reverse]
  exact List.head_mem hrest

theorem isBlank_strip {t : Text} (h : t.strip ≠ []) : t.strip.isBlank = false := by
  obtain ⟨c, hc, hspace⟩ := exists_of_trimEnd_ne_nil h
  rw [isBlank, List.all_eq_false]
  exact ⟨c, hc, by simp [hspace]⟩

end Text

/-! ## 2. Replies -/

namespace Envelope

/-- What is no acceptable envelope is malformed. -/
theorem check_error {value : Json} {failure : Failure}
    (h : (check value).2 = .error failure) :
    ∃ message refusal, failure = .malformedReply message refusal := by
  unfold check at h
  split at h
  · split at h
    · exact absurd h (by simp)
    · exact ⟨_, _, (Except.error.inj h).symm⟩
  · exact ⟨_, _, (Except.error.inj h).symm⟩

end Envelope

theorem replyContent_result (value : Json) :
    (replyContent value).2 = (Envelope.check value).2.map fun e => Fence.stripFences e.response := by
  unfold replyContent
  split <;> next h => rw [h]; rfl

theorem replyContent_eq_ok_iff {value : Json} {content : Text} :
    (replyContent value).2 = .ok content ↔ ∃ envelope,
      (Envelope.check value).2 = .ok envelope ∧ Fence.stripFences envelope.response = content := by
  rw [replyContent_result]
  cases (Envelope.check value).2 <;> simp [Except.map]

theorem replyContent_eq_error_iff {value : Json} {failure : Failure} :
    (replyContent value).2 = .error failure ↔ (Envelope.check value).2 = .error failure := by
  rw [replyContent_result]
  cases (Envelope.check value).2 <;> simp [Except.map]

namespace Fixer

/-- A reply brings a content if it is an acceptable envelope of which that content is left. -/
theorem usableContent_eq_ok_iff {result : Except Failure Json} {content : Text} :
    (usableContent result).2 = .ok content ↔ content ≠ [] ∧ ∃ value envelope,
      result = .ok value ∧ (Envelope.check value).2 = .ok envelope ∧
        Fence.stripFences envelope.response = content := by
  unfold usableContent
  cases result with
  | error failure => simp
  | ok value =>
    simp only [Except.ok.injEq, exists_and_left, exists_eq_left', ← replyContent_eq_ok_iff]
    split
    · next h => simp [h]
    · next found h =>
      split
      · next hempty =>
        obtain rfl := List.isEmpty_iff.mp hempty
        simp [h, eq_comm]
      · next hempty =>
        simp only [h, Except.ok.injEq]
        constructor
        · rintro rfl
          exact ⟨mt List.isEmpty_iff.mpr hempty, rfl⟩
        · exact And.right

theorem exists_usableContent_iff {result : Except Failure Json} {good : Text → Prop} :
    (∃ content, (usableContent result).2 = .ok content ∧ good content) ↔ ∃ value envelope,
      result = .ok value ∧ (Envelope.check value).2 = .ok envelope ∧
        Fence.stripFences envelope.response ≠ [] ∧ good (Fence.stripFences envelope.response) := by
  constructor
  · rintro ⟨content, hcontent, hgood⟩
    obtain ⟨hne, value, envelope, hvalue, hcheck, rfl⟩ := usableContent_eq_ok_iff.mp hcontent
    exact ⟨value, envelope, hvalue, hcheck, hne, hgood⟩
  · rintro ⟨value, envelope, hvalue, hcheck, hne, hgood⟩
    exact ⟨_, usableContent_eq_ok_iff.mpr ⟨hne, value, envelope, hvalue, hcheck, rfl⟩, hgood⟩

/-- Usable content is more than whitespace. -/
theorem isBlank_of_usable {result : Except Failure Json} {content : Text}
    (h : (usableContent result).2 = .ok content) : content.isBlank = false := by
  obtain ⟨hne, value, envelope, -, -, rfl⟩ := usableContent_eq_ok_iff.mp h
  exact Text.isBlank_strip hne

/-- Only an answer that is the operator's stop makes its content one. -/
theorem usableContent_interrupted_iff {result : Except Failure Json} :
    (usableContent result).2 = .error .interrupted ↔ result = .error .interrupted := by
  unfold usableContent
  cases result with
  | error failure => simp
  | ok value =>
    simp only [reduceCtorEq, iff_false]
    split
    · next events failure h =>
      have hcheck : (Envelope.check value).2 = .error failure :=
        replyContent_eq_error_iff.mp (by rw [h])
      obtain ⟨message, refusal, rfl⟩ := Envelope.check_error hcheck
      simp
    · split <;> simp

end Fixer

end LintMend
