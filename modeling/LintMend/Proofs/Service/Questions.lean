/-
LintMend.Proofs.Service.Questions — requests that only ask.

A question is a request without a body by the method for asking. The client asks for the version
and for the models, looks after the service's health, and waits until the service is ready, all of
it by questions alone. A request for text is no question.

  `IsQuestion`, `AsksOnly`   — questions, and links that went on with nothing else
  `asksOnly_request`         — one request that asks
  `asksOnly_health`, `asksOnly_waitUntilReady` — the health checks, and the poll
  `generate_requests`        — what a request for text sends
-/
import LintMend.Proofs.Service.Exchange
import LintMend.Service.Health

namespace LintMend

/-- A request that asks and sends nothing. -/
def Request.IsQuestion (r : Request) : Prop :=
  r.method = "GET" ∧ r.body = none

namespace Link

variable {l l' l'' : Link}

/-- A link has gone on to another, and what was sent in between are questions. -/
def AsksOnly (l l' : Link) : Prop :=
  ∃ asked, l'.requests = l.requests ++ asked ∧ ∀ r ∈ asked, r.IsQuestion

namespace AsksOnly

/-- A link that has sent nothing more. -/
theorem of_eq (h : l'.requests = l.requests) : l.AsksOnly l' :=
  ⟨[], by simp [h], by simp⟩

theorem refl (l : Link) : l.AsksOnly l :=
  of_eq rfl

theorem trans (h : l.AsksOnly l') (h' : l'.AsksOnly l'') : l.AsksOnly l'' := by
  obtain ⟨asked, hasked, hall⟩ := h
  obtain ⟨asked', hasked', hall'⟩ := h'
  refine ⟨asked ++ asked', by rw [hasked', hasked, List.append_assoc], fun r hr => ?_⟩
  rcases List.mem_append.mp hr with hr | hr
  · exact hall r hr
  · exact hall' r hr

/-- What is known of a step is known of the link that it gives. -/
theorem of_step {α : Type} {step : Link × α} {result : α} (h : l.AsksOnly step.1)
    (hstep : step = (l', result)) : l.AsksOnly l' := by
  rw [hstep] at h
  exact h

end AsksOnly

theorem asksOnly_emit (l : Link) (e : Log.Event) : l.AsksOnly (l.emit e) :=
  .of_eq rfl

theorem asksOnly_foldl_emit (events : List Log.Event) :
    ∀ l : Link, l.AsksOnly (events.foldl emit l) := by
  induction events with
  | nil => exact .refl
  | cons e rest ih => exact fun l => (asksOnly_emit l e).trans (ih (l.emit e))

end Link

open Link (AsksOnly)

namespace ServiceClient

/-! ## 1. One request -/

theorem asksOnly_request (c : ServiceClient) (l : Link) (path : Text) (limit : Float) :
    l.AsksOnly (c.request l "GET" path limit none).1 :=
  ⟨_, request_requests c l "GET" path limit none, by simp [unsendable?, Request.IsQuestion]⟩

/-- **A request for text is sent with a body**, unless that cannot be sent; so it is no question. -/
theorem generate_requests (c : ServiceClient) (l : Link) (prompt : Text) :
    let body := generateBody c.settings.model prompt c.settings.temperature
    (c.generate l prompt).1.requests = l.requests ++
      if (unsendable? (some body)).isSome then []
      else [⟨"POST", c.base.below generatePath, some body⟩] := by
  intro body
  let started := l.emit (.requestStarted c.settings.model prompt.length)
  have hrequest := request_requests c started "POST" generatePath c.settings.timeout (some body)
  unfold generate
  simp only
  split
  · next h => exact (congrArg (·.1.requests) h).symm.trans hrequest
  · next h => exact (congrArg (·.1.requests) h).symm.trans hrequest

/-! ## 2. Version and models -/

theorem asksOnly_version (c : ServiceClient) (l : Link) : l.AsksOnly (c.version l).1 := by
  have hrequest := asksOnly_request c l versionPath c.settings.healthTimeout
  unfold version
  split
  · next h => exact hrequest.of_step h
  · next h => split <;> exact hrequest.of_step h

theorem asksOnly_models (c : ServiceClient) (l : Link) : l.AsksOnly (c.models l).1 := by
  have hrequest := asksOnly_request c l modelsPath c.settings.healthTimeout
  unfold models
  split
  · next h => exact hrequest.of_step h
  · next h => exact hrequest.of_step h

theorem asksOnly_hasModel (c : ServiceClient) (l : Link) (name : Option Text) :
    l.AsksOnly (c.hasModel l name).1 := by
  have hmodels := asksOnly_models c l
  unfold hasModel
  simp only
  split
  · next h => exact hmodels.of_step h
  · next h => exact hmodels.of_step h

end ServiceClient

/-! ## 3. Health -/

open ServiceClient

theorem HealthCheck.asksOnly_ofService (c : ServiceClient) (elapsed : Float) (l : Link) :
    l.AsksOnly (HealthCheck.ofService c elapsed l).1 := by
  unfold HealthCheck.ofService
  simp only
  have hversion := asksOnly_version c l
  have hlogged := hversion.trans (Link.asksOnly_foldl_emit
    (withDeadline (c.settings.healthTimeout + 1.0) (floatText (c.settings.healthTimeout + 1.0)) none
      (some (c.version l).2)).1 (c.version l).1)
  split
  · exact hlogged
  · split <;> exact hlogged

theorem HealthCheck.asksOnly_ofModel (c : ServiceClient) (l : Link) :
    l.AsksOnly (HealthCheck.ofModel c l).1 := by
  have hmodel := asksOnly_hasModel c l (some c.settings.model)
  unfold HealthCheck.ofModel
  simp only
  split
  · next h => exact hmodel.of_step h
  · next h => exact hmodel.of_step h
  · next h => split <;> exact hmodel.of_step h

namespace HealthReport

theorem asksOnly_runChecks (c : ServiceClient) (elapsed : Float) (l : Link) :
    l.AsksOnly (runChecks c elapsed l).1 := by
  have hservice := HealthCheck.asksOnly_ofService c elapsed l
  unfold runChecks
  split
  · next h => exact hservice.of_step h
  · next asked first h =>
    have hservice := hservice.of_step h
    have hmodel := hservice.trans (HealthCheck.asksOnly_ofModel c asked)
    split
    · split
      · next h => exact hmodel.of_step h
      · next h => exact hmodel.of_step h
    · exact hservice

/-- **Looking after the service's health sends nothing but questions.** -/
theorem asksOnly_health (c : ServiceClient) (time : Int) (elapsed : Float) (l : Link) :
    l.AsksOnly (run c time elapsed l).1 := by
  have hchecks := (Link.asksOnly_emit l (.healthCheckStarted c.settings.address)).trans
    (asksOnly_runChecks c elapsed _)
  unfold run
  split
  · next h => exact hchecks.of_step h
  · next asked checks h => exact (hchecks.of_step h).trans (Link.asksOnly_emit asked _)

end HealthReport

/-! ## 4. Waiting -/

/-- A poll that probes and pauses by questions alone sends no more than that, however often it
probes. -/
theorem Poll.asksOnly_runFrom {α : Type} {poll : Poll Link α}
    (hprobe : ∀ l : Link, l.AsksOnly (poll.probe l).1)
    (hpause : ∀ (l : Link) (e : Log.Event) (seconds : Float), l.AsksOnly (poll.pause l e seconds))
    (p : Patience) (again : Failure → Bool) (left : Nat) :
    ∀ (attempt : Nat) (l : Link), l.AsksOnly (runFrom poll p again left attempt l).1 := by
  induction left with
  | zero => exact fun _ l => hprobe l
  | succ left ih =>
    intro attempt l
    have hfirst := hprobe l
    rw [runFrom]
    split
    · next h => exact hfirst.of_step h
    · next asked failure h =>
      have hfirst := hfirst.of_step h
      split
      · exact (hfirst.trans (hpause asked _ _)).trans (ih _ _)
      · exact hfirst

theorem ServiceClient.asksOnly_probe (c : ServiceClient) (l : Link) :
    l.AsksOnly (c.probe l).1 := by
  have hversion := asksOnly_version c l
  unfold probe
  split
  · next h => exact hversion.of_step h
  · next asked v h => exact (hversion.of_step h).trans (Link.asksOnly_emit asked _)

/-- **Waiting until the service is ready sends nothing but questions.** -/
theorem ServiceClient.asksOnly_waitUntilReady (c : ServiceClient) (l : Link) (attempts : Int) :
    l.AsksOnly (c.waitUntilReady l attempts).1 :=
  Poll.asksOnly_runFrom (asksOnly_probe c) (fun _ _ _ => .of_eq rfl) _ _ _ _ _

end LintMend
