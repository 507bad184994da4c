/-
LintMend.Proofs.Failure — what the text of a failure tells.

A refusal of the file system gives its number before it names any files. So the refusal can be told
from the text, in either wording and whatever was drawn for the name of a temporary file.

  `Failure.errno_of_text`            — refusals with one text are one refusal
  `Failure.drawn_eq_interrupted_iff` — no draw makes or hides the operator's stop
-/
import LintMend.Failure

namespace LintMend

/-- Texts that begin with the messages of different refusals are different. -/
theorem Errno.eq_of_message_append {e e' : Errno} {rest rest' : Text}
    (h : e.message ++ rest = e'.message ++ rest') : e = e' := by
  -- the number has at most two digits, so it is over after ten code points
  have htake : ∀ (e : Errno) (rest : Text), (e.message ++ rest).take 10 = e.message.take 10 := by
    intro e rest
    refine List.take_append_of_le_length ?_
    cases e <;> decide
  have hstart : e.message.take 10 = e'.message.take 10 := by
    rw [← htake e rest, h, htake]
  revert hstart
  cases e <;> cases e' <;> decide

namespace Failure

variable {failure : Failure} {part : Text}

theorem text_refused (wording : Wording) (e : Errno) (files : List FileName) :
    ∃ rest, (refused e files).text wording = e.message ++ rest := by
  cases wording with
  | short => exact ⟨[], by simp [text]⟩
  | full =>
    match files with
    | [] => exact ⟨[], by simp [text, Errno.text]⟩
    | [_] => exact ⟨_, by rw [text, Errno.text, List.append_assoc]⟩
    | _ :: _ :: _ => exact ⟨_, by simp only [text, Errno.text, List.append_assoc]; rfl⟩

theorem errno_of_text {wording : Wording} {e e' : Errno} {files files' : List FileName}
    (h : (refused e files).text wording = (refused e' files').text wording) : e = e' := by
  obtain ⟨rest, hrest⟩ := text_refused wording e files
  obtain ⟨rest', hrest'⟩ := text_refused wording e' files'
  rw [hrest, hrest'] at h
  exact Errno.eq_of_message_append h

theorem drawn_eq_interrupted_iff : failure.drawn part = .interrupted ↔ failure = .interrupted := by
  cases failure <;> simp [drawn]

end Failure

end LintMend
