/-
LintMend.Proofs.Service.Reported — what requests report.

The client reports where a request for text begins and ends, and what is wrong with the answer to a
request. It reports nothing else, whatever is asked and whatever the answer is.

  `Event.OfRequest` — the events of requests
  `request_log`     — one request
  `generate_log`    — a request for text
-/
import LintMend.Service.Client

namespace LintMend

/-- The events of requests: where they begin and end, and what is wrong with their answers. -/
def Log.Event.OfRequest : Log.Event → Prop
  | .requestStarted .. | .requestCompleted .. => True
  | .requestFailed .. | .requestRefused .. | .bodyUnreadable .. => True
  | _ => False

namespace ServiceClient

variable {c : ServiceClient} {l : Link} {path : Text}

theorem linkFailure_log (limit : Float) (fault : LinkFault) (message : Text) :
    ∃ e, (c.linkFailure l path limit fault message).1.log = l.log ++ [e] ∧ e.OfRequest := by
  unfold linkFailure
  split <;> exact ⟨_, rfl, trivial⟩

theorem readObject_log (bytes : Bytes) :
    ∃ es, (readObject l path bytes).1.log = l.log ++ es ∧ ∀ e ∈ es, e.OfRequest := by
  unfold readObject
  split
  · exact ⟨_, rfl, List.forall_mem_singleton.mpr trivial⟩
  · exact ⟨[], (List.append_nil _).symm, List.forall_mem_nil _⟩
  · exact ⟨[], (List.append_nil _).symm, List.forall_mem_nil _⟩

/-- **A request reports what is wrong with its answer**, and nothing else. -/
theorem request_log (c : ServiceClient) (l : Link) (method path : Text) (limit : Float)
    (body : Option Json) :
    ∃ es, (c.request l method path limit body).1.log = l.log ++ es ∧ ∀ e ∈ es, e.OfRequest := by
  unfold request
  split
  · exact ⟨[], (List.append_nil _).symm, List.forall_mem_nil _⟩
  · split
    · next sent fault message hsent =>
      have hlog : sent.log = l.log := (congrArg (·.1.log) hsent).symm
      have htrouble : ∃ e, (c.linkFailure sent path limit fault message).1.log = sent.log ++ [e] ∧
          e.OfRequest := linkFailure_log limit fault message
      obtain ⟨e, he, hevent⟩ := htrouble
      exact ⟨[e], by rw [← hlog]; exact he, List.forall_mem_singleton.mpr hevent⟩
    · next sent failure _ hsent =>
      have hlog : sent.log = l.log := (congrArg (·.1.log) hsent).symm
      exact ⟨[], by rw [List.append_nil]; exact hlog, List.forall_mem_nil _⟩
    · next sent status bytes hsent =>
      have hlog : sent.log = l.log := (congrArg (·.1.log) hsent).symm
      rw [← hlog]
      split
      · exact readObject_log bytes
      · exact ⟨_, rfl, List.forall_mem_singleton.mpr trivial⟩

/-- A request for text reports its beginning and its end, too. -/
theorem generate_log (c : ServiceClient) (l : Link) (prompt : Text) :
    ∃ es, (c.generate l prompt).1.log = l.log ++ es ∧ ∀ e ∈ es, e.OfRequest := by
  let body := generateBody c.settings.model prompt c.settings.temperature
  let started := Log.Event.requestStarted c.settings.model prompt.length
  obtain ⟨es, hlog, hall⟩ := request_log c (l.emit started) "POST" generatePath
    c.settings.timeout (some body)
  have hbegun : ∀ e ∈ started :: es, e.OfRequest := List.forall_mem_cons.mpr ⟨trivial, hall⟩
  have hsent : (l.emit started).log ++ es = l.log ++ started :: es := by
    rw [Link.emit, List.append_assoc]
    rfl
  rw [hsent] at hlog
  unfold generate
  simp only
  split
  · next answered failure h => exact ⟨_, (congrArg (·.1.log) h).symm.trans hlog, hbegun⟩
  · next answered fields h =>
    have hanswered : answered.log = l.log ++ started :: es :=
      (congrArg (·.1.log) h).symm.trans hlog
    refine ⟨started :: es ++ [.requestCompleted c.settings.model], ?_, ?_⟩
    · rw [Link.emit, hanswered, List.append_assoc]
    · exact List.forall_mem_append.mpr ⟨hbegun, List.forall_mem_singleton.mpr trivial⟩

end ServiceClient

end LintMend
