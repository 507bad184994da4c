/-
LintMend.Proofs.Service.Readiness — waiting until the service is ready.

The client asks for the version, and as long as the service is unavailable, asks again, up to a
number of attempts. What comes of one probe depends on what the service answers to it and on nothing
before, and leaves nothing on the link but its request and some events. So a whole wait is told by
the answers: how many probes are made, with what result, and what rests and warnings lie in between.

  `answerTo`            — the result of a probe, by what comes of its request
  `probe_eq`            — what a probe leaves on the link
  `before_eq`           — what some failed probes leave
  `Awaited`             — a wait, told by the failures after which it went on
  `waitUntilReady_awaits` — every wait
-/
import LintMend.Proofs.Service.Contract
import LintMend.Proofs.Service.Polling
import LintMend.Proofs.Service.Reported

namespace LintMend

open Link (fresh)

/-- Requests do not warn that the service is not ready. -/
theorem Log.Event.OfRequest.name_ne {e : Log.Event} (h : e.OfRequest) :
    e.entry.name ≠ "service_not_ready" := by
  cases e with
  | requestStarted | requestCompleted | requestFailed | requestRefused | bodyUnreadable =>
    exact of_decide_eq_true rfl
  | _ => exact False.elim h

namespace ServiceClient

variable {c : ServiceClient} {l : Link}

/-! ## 1. One probe -/

/-- The request for the version. -/
def versionRequest (c : ServiceClient) : Request :=
  ⟨"GET", c.base.below versionPath, none⟩

/-- The result of a probe, by what comes of its request. -/
def answerTo (c : ServiceClient) (r : Reaction) : Except Failure Text :=
  (c.probe (fresh r)).2

/-- **A probe leaves its request and some events**, and its result depends on the answer alone. -/
theorem probe_eq (c : ServiceClient) (l : Link) :
    c.probe l = (l.asked c.versionRequest (c.probe (fresh (l.reaction 0))).1.log,
      c.answerTo (l.reaction 0)) := by
  have hrequest := request_eq c l "GET" versionPath c.settings.healthTimeout
    (show unsendable? none = none from rfl)
  simp only [answerTo, probe, version]
  rw [hrequest]
  obtain ⟨l', failure | fields⟩ := c.request (fresh (l.reaction 0)) "GET" versionPath _ none
  · rfl
  · simp only
    rcases Json.lookup "version" fields with _ | (_ | _ | _ | _ | (_ | ⟨d, rest⟩) | _ | _) <;>
      simp [Link.asked, Link.emit, versionRequest]

/-- The events of a probe are no warnings that the service is not ready. -/
theorem name_of_mem_probe {r : Reaction} {e : Log.Event}
    (h : e ∈ (c.probe (fresh r)).1.log) : e.entry.name ≠ "service_not_ready" := by
  obtain ⟨es, hlog, hall⟩ :=
    request_log c (fresh r) "GET" versionPath c.settings.healthTimeout none
  have hrequest : ∀ e ∈ (c.request (fresh r) "GET" versionPath c.settings.healthTimeout none).1.log,
      e.entry.name ≠ "service_not_ready" := by
    intro e he
    rw [hlog] at he
    exact (hall e he).name_ne
  unfold probe version at h
  generalize c.request (fresh r) _ _ _ _ = answered at h hrequest
  obtain ⟨l', failure | fields⟩ := answered
  · exact hrequest e h
  · -- only a version that is there adds an event to those of its request
    have hready : ∀ v, e ∈ (l'.emit (.serviceReady c.settings.address v)).log →
        e.entry.name ≠ "service_not_ready" := by
      intro v he
      rcases List.mem_append.mp he with he | he
      · exact hrequest e he
      · obtain rfl := List.mem_singleton.mp he
        show ("service_ready" : Text) ≠ "service_not_ready"
        decide
    simp only at h
    rcases hversion : Json.lookup "version" fields with
      _ | (_ | _ | _ | _ | (_ | ⟨d, rest⟩) | _ | _) <;> rw [hversion] at h
    case some.string.cons => exact hready _ h
    all_goals exact hrequest e h

/-! ## 2. Failed probes -/

/-- What is polled to wait until the service is ready. -/
def poll (c : ServiceClient) : Poll Link Text :=
  ⟨c.probe, fun l e seconds => (l.emit e).rest seconds⟩

/-- An event that warns that the service is not ready. -/
def warnsNotReady (e : Log.Event) : Bool :=
  e.entry.name == "service_not_ready"

/-- The warnings after failures with some messages, from an attempt on. -/
def warnings (p : Patience) (attempt : Nat) (messages : List Text) : List Log.Event :=
  (messages.zipIdx attempt).map fun (message, n) =>
    .serviceNotReady n "ServiceUnavailableError" message (p.waitAfter n)

/-- The answers to the next requests make the service unavailable, with these messages. -/
def Unavailable (c : ServiceClient) (l : Link) (messages : List Text) : Prop :=
  ∀ n (h : n < messages.length),
    c.answerTo (l.reaction n) = .error (.serviceUnavailable messages[n])

theorem filter_probe_log (c : ServiceClient) (l : Link) :
    (c.probe l).1.log.filter warnsNotReady = l.log.filter warnsNotReady := by
  have hnone : (c.probe (fresh (l.reaction 0))).1.log.filter warnsNotReady = [] := by
    refine List.filter_eq_nil_iff.mpr fun e he => ?_
    simpa [warnsNotReady] using name_of_mem_probe he
  rw [probe_eq]
  simp only [Link.asked, List.filter_append, hnone, List.append_nil]

/-- What a failed probe leaves on the link: its request, and a warning and a rest. -/
theorem resume_eq (p : Patience) (attempt : Nat) {message : Text}
    (hfailed : c.answerTo (l.reaction 0) = .error (.serviceUnavailable message)) :
    c.poll.resume p attempt (c.probe l) =
      ((c.probe l).1.emit (.serviceNotReady attempt "ServiceUnavailableError" message
        (p.waitAfter attempt))).rest (p.waitAfter attempt) := by
  have hresult : (c.probe l).2 = .error (.serviceUnavailable message) := by
    rw [probe_eq]
    exact hfailed
  generalize c.probe l = probed at hresult
  obtain ⟨l', result⟩ := probed
  obtain rfl : result = _ := hresult
  rfl

/-- One failed probe leaves its request, a warning and a rest. -/
theorem resume_leaves (p : Patience) (attempt : Nat) {message : Text} {next : Link}
    (hfailed : c.answerTo (l.reaction 0) = .error (.serviceUnavailable message))
    (hnext : c.poll.resume p attempt (c.probe l) = next) :
    next.reactions = l.reactions.drop 1 ∧
    next.requests = l.requests ++ [c.versionRequest] ∧
    next.waits = l.waits ++ [p.waitAfter attempt] ∧
    next.log.filter warnsNotReady =
      l.log.filter warnsNotReady ++ warnings p attempt [message] := by
  have hprobe := congrArg Prod.fst (probe_eq c l)
  rw [resume_eq p attempt hfailed] at hnext
  subst hnext
  refine ⟨?_, ?_, ?_, ?_⟩
  · rw [hprobe]
    rfl
  · rw [hprobe]
    rfl
  · rw [hprobe]
    rfl
  · rw [← filter_probe_log c l]
    exact List.filter_append _ _

/-- **What failed probes leave on the link**: their requests, and after each a warning and a
rest. -/
theorem before_eq (p : Patience) (messages : List Text) :
    ∀ (attempt : Nat) (l : Link), c.Unavailable l messages →
      ∀ l', c.poll.before p attempt l messages.length = l' →
        l'.reactions = l.reactions.drop messages.length ∧
        l'.requests = l.requests ++ List.replicate messages.length c.versionRequest ∧
        l'.waits = l.waits ++ (List.range' attempt messages.length).map p.waitAfter ∧
        l'.log.filter warnsNotReady =
          l.log.filter warnsNotReady ++ warnings p attempt messages := by
  induction messages with
  | nil =>
    rintro attempt l - l' rfl
    exact ⟨rfl, (List.append_nil _).symm, (List.append_nil _).symm, (List.append_nil _).symm⟩
  | cons message messages ih =>
    rintro attempt l hfailed l' rfl
    generalize hnext : c.poll.resume p attempt (c.probe l) = next
    obtain ⟨hreactions, hasked, hrested, hwarned⟩ :=
      resume_leaves p attempt (hfailed 0 (Nat.succ_pos _)) hnext
    have hlater : c.Unavailable next messages := by
      intro n hn
      rw [Link.reaction_of_drop hreactions]
      exact hfailed (n + 1) (Nat.succ_lt_succ hn)
    have hrun : c.poll.before p attempt l (message :: messages).length =
        c.poll.before p (attempt + 1) next messages.length := by
      rw [← hnext]
      rfl
    obtain ⟨hdrop, hrequests, hwaits, hlog⟩ := ih (attempt + 1) next hlater _ hrun.symm
    refine ⟨?_, ?_, ?_, ?_⟩
    · rw [hdrop, hreactions, List.drop_drop, List.length_cons, Nat.add_comm]
    · rw [hrequests, hasked, List.append_assoc, List.length_cons, List.replicate_succ]
      rfl
    · rw [hwaits, hrested, List.append_assoc, List.length_cons, List.range'_succ]
      rfl
    · rw [hlog, hwarned, List.append_assoc]
      rfl

theorem reaction_before (p : Patience) (attempt : Nat) {messages : List Text}
    (hfailed : c.Unavailable l messages) :
    (c.poll.before p attempt l messages.length).reaction 0 = l.reaction messages.length := by
  obtain ⟨hdrop, -⟩ := before_eq p messages attempt l hfailed _ rfl
  simp [Link.reaction, hdrop, List.getD_eq_getElem?_getD]

/-! ## 3. Answers -/

theorem probe_result (c : ServiceClient) (l : Link) : (c.probe l).2 = (c.version l).2 := by
  unfold probe
  obtain ⟨l', failure | v⟩ := c.version l <;> rfl

/-- What comes of a request lets a probe end in one of three ways. -/
theorem answerTo_cases (c : ServiceClient) {r : Reaction} (hlink : r.OfLink) :
    (∃ v, c.answerTo r = .ok v) ∨
      (∃ message, c.answerTo r = .error (.serviceUnavailable message)) ∨
        ∃ message refusal, c.answerTo r = .error (.malformedReply message refusal) := by
  have hkeeps : Keeps (· ≠ []) (c.answerTo r) := by
    rw [answerTo, probe_result]
    exact version_keeps hlink
  cases h : c.answerTo r with
  | ok v => exact .inl ⟨v, rfl⟩
  | error failure =>
    rw [h] at hkeeps
    cases failure with
    | serviceUnavailable message => exact .inr (.inl ⟨message, rfl⟩)
    | malformedReply message refusal => exact .inr (.inr ⟨message, refusal, rfl⟩)
    | _ => exact False.elim hkeeps

theorem retried_iff {r : Reaction} (hlink : r.OfLink) :
    Poll.Retried Failure.meansNotReady (c.answerTo r) ↔
      ∃ message, c.answerTo r = .error (.serviceUnavailable message) := by
  constructor
  · rintro ⟨failure, hfailure, hagain⟩
    rcases c.answerTo_cases hlink with ⟨v, h⟩ | h | ⟨message, refusal, h⟩
    · exact absurd (h.symm.trans hfailure) (by simp)
    · exact h
    · obtain rfl := Except.error.inj (h.symm.trans hfailure)
      exact absurd hagain Bool.false_ne_true
  · rintro ⟨message, h⟩
    exact ⟨_, h, rfl⟩

theorem exists_unavailable (hlink : ∀ n, (l.reaction n).OfLink) (p : Patience) (n : Nat)
    (hretried : ∀ i < n, Poll.Retried Failure.meansNotReady
      (c.probe (c.poll.before p 1 l i)).2) :
    ∃ messages, messages.length = n ∧ c.Unavailable l messages := by
  induction n with
  | zero => exact ⟨[], rfl, fun i hi => absurd hi (Nat.not_lt_zero i)⟩
  | succ n ih =>
    obtain ⟨messages, rfl, hfailed⟩ := ih fun i hi => hretried i (Nat.lt_succ_of_lt hi)
    have hlast := hretried messages.length (Nat.lt_succ_self _)
    rw [probe_eq, reaction_before p 1 hfailed] at hlast
    obtain ⟨message, hmessage⟩ := (retried_iff (hlink _)).mp hlast
    refine ⟨messages ++ [message], List.length_append, fun i hi => ?_⟩
    rw [List.length_append, List.length_singleton] at hi
    rcases Nat.lt_succ_iff_lt_or_eq.mp hi with hlt | rfl
    · rw [List.getElem_append_left hlt]
      exact hfailed i hlt
    · rw [List.getElem_concat_length rfl]
      exact hmessage

/-! ## 4. Waiting -/

/-- A wait until the service is ready, told by the messages of the failures after which it went on:
it makes one more probe than these, and ends with the result of that one. -/
structure Awaited (c : ServiceClient) (l : Link) (attempts : Int) (messages : List Text) :
    Prop where
  /-- The service was unavailable for all probes but the last one. -/
  unavailable : c.Unavailable l messages
  /-- There are no more probes than attempts. -/
  within : messages.length + 1 ≤ attempts
  /-- The last probe uses up the attempts, or finds the service available. -/
  ended : messages.length + 1 = attempts ∨
    (∃ v, c.answerTo (l.reaction messages.length) = .ok v) ∨
      ∃ message refusal,
        c.answerTo (l.reaction messages.length) = .error (.malformedReply message refusal)
  result : (c.waitUntilReady l attempts).2 = c.answerTo (l.reaction messages.length)
  requests : (c.waitUntilReady l attempts).1.requests =
    l.requests ++ List.replicate (messages.length + 1) c.versionRequest
  waits : (c.waitUntilReady l attempts).1.waits =
    l.waits ++ (List.range' 1 messages.length).map (Patience.waitAfter { attempts })
  warned : (c.waitUntilReady l attempts).1.log.filter warnsNotReady =
    l.log.filter warnsNotReady ++ warnings { attempts } 1 messages
  /-- A warning and a rest come after each failed probe, and the last probe ends the wait. -/
  order : c.waitUntilReady l attempts =
    c.probe (c.poll.before { attempts } 1 l messages.length)

theorem exists_awaited (c : ServiceClient) (l : Link) {attempts : Int} (hattempts : 1 ≤ attempts)
    (hlink : ∀ n, (l.reaction n).OfLink) : ∃ messages, c.Awaited l attempts messages := by
  obtain ⟨n, hle, hbefore, hstop, hrun⟩ := Poll.runFrom_stops c.poll { attempts }
    Failure.meansNotReady (attempts.toNat - 1) 1 l
  have horder : c.waitUntilReady l attempts = c.probe (c.poll.before { attempts } 1 l n) := hrun
  obtain ⟨messages, rfl, hfailed⟩ := exists_unavailable hlink { attempts } n hbefore
  have hreaction := reaction_before (c := c) { attempts } 1 hfailed
  obtain ⟨-, hrequests, hwaits, hlog⟩ :=
    before_eq { attempts } messages 1 l hfailed _ rfl
  have hresult : (c.poll.probe (c.poll.before { attempts } 1 l messages.length)).2 =
      c.answerTo (l.reaction messages.length) := by
    rw [← hreaction]
    exact congrArg (·.2) (probe_eq c (c.poll.before { attempts } 1 l messages.length))
  rw [hresult] at hstop
  refine ⟨messages, hfailed, by omega, ?_, ?_, ?_, ?_, ?_, horder⟩
  · refine hstop.imp (fun h => by omega) fun hstopped => ?_
    rw [retried_iff (hlink _)] at hstopped
    rcases c.answerTo_cases (hlink messages.length) with h | h | h
    · exact .inl h
    · exact absurd h hstopped
    · exact .inr h
  · exact (congrArg Prod.snd horder).trans hresult
  · rw [horder, probe_eq, List.replicate_succ', ← List.append_assoc, ← hrequests]
    rfl
  · rw [horder, probe_eq, ← hwaits]
    rfl
  · rw [horder, filter_probe_log, hlog]

/-- **Waiting until the service is ready**: the client probes until the first answer that does not
make the service unavailable, or until the attempts are used up, and ends with the result of the
last probe. Between each two probes it warns and rests once, half a second at first and then twice
as long, up to ten seconds; and what stands behind the loop of a controller is never reached. -/
theorem waitUntilReady_awaits (c : ServiceClient) (l : Link) {attempts : Int}
    (hattempts : 1 ≤ attempts) (hlink : ∀ r ∈ l.reactions, r.OfLink) :
    (∃ messages, c.Awaited l attempts messages) ∧
      (∀ n, 1 ≤ n → valueOf? (Patience.waitAfter { attempts } n) =
        some (max (1 / 2) (min (1 / 2 * 2 ^ (n - 1)) 10))) ∧
      ∀ behind, c.poll.loop { attempts } Failure.meansNotReady behind 1 l =
        c.waitUntilReady l attempts := by
  refine ⟨exists_awaited c l hattempts (Link.reaction_ofLink hlink), ?_, ?_⟩
  · intro n hn
    exact Patience.valueOf?_waitAfter hn
  · intro behind
    exact Poll.loop_eq_run _ _ _ _ _

/-- A service that refuses the first request and then answers with its version. -/
def lateLink : Link :=
  { reactions := [Link.refusal, .response 200 (latinBytes versionReply)] }

/-- At that service the wait ends with the version, after one rest of half a second. -/
theorem waitUntilReady_awaits_late :
    (1 : Int) ≤ 5 ∧ (∀ r ∈ lateLink.reactions, r.OfLink) ∧
      (usualClient.waitUntilReady lateLink 5).2 = .ok "1" ∧
      (usualClient.waitUntilReady lateLink 5).1.waits.map valueOf? = [some (1 / 2)] := by
  have hlink : ∀ r ∈ lateLink.reactions, r.OfLink := by
    simp [lateLink, Link.refusal, Reaction.OfLink]
  obtain ⟨⟨messages, hawaited⟩, hseconds, -⟩ :=
    waitUntilReady_awaits usualClient lateLink (by decide : (1 : Int) ≤ 5) hlink
  have hrefused : usualClient.answerTo (lateLink.reaction 0) = .error (.serviceUnavailable
      "Cannot reach Ollama at http://localhost:11434: connection refused") := by rfl
  have hversion : usualClient.answerTo (lateLink.reaction 1) = .ok "1" := by
    rw [answerTo, probe_result]
    exact (version_eq_ok_iff (l := fresh (lateLink.reaction 1))
      (Link.reaction_ofLink hlink 1)).mpr ⟨versionFields, object?_versionReply, rfl⟩
  have hone : messages.length = 1 := by
    rcases hlength : messages.length with _ | _ | n
    · have hended := hawaited.ended
      rw [hlength, hrefused] at hended
      simp at hended
    · rfl
    · have hfailed := hawaited.unavailable 1 (by omega)
      rw [hversion] at hfailed
      exact absurd hfailed (by simp)
  refine ⟨by decide, hlink, ?_, ?_⟩
  · rw [hawaited.result, hone, hversion]
  · rw [hawaited.waits, hone]
    show [valueOf? (Patience.waitAfter { attempts := 5 } 1)] = _
    rw [hseconds 1 (by decide)]
    norm_num

end ServiceClient

end LintMend
