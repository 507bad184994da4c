/-
LintMend.Proofs.Fixing.Account — the log tells the truth about a run.

While the diagnostics of a file are fixed, its path is bound in the log context, and each attempt
ends with one record of what became of it, with the session's counter. Counters, context and records
are kept at separate places. That they agree is said once for each way in which an attempt can end,
as `Concluded`, and carried along a row of attempts as `tell`, the verdicts with their counts. The
context comes back whatever happens, even if a failure ends the run.

A service may log in between what it likes, as long as it is no verdict and frames none. The client
of the service is discreet in this sense.

  `Service.Discreet`, `ServiceClient.discreet` — services that log asides alone
  `World.AddsAsides`        — what a run does between verdicts
  `Attempted.concluded`     — the verdict at the end of an attempt
  `AttemptedAll.adds`       — the verdicts of a row of attempts
  `LoggedFile`, `LoggedFiles` — the records of files, block by block
  `run_log_truthful`        — the whole run
-/
import LintMend.Proofs.Fixing.Context
import LintMend.Proofs.Fixing.Counts
import LintMend.Proofs.Log.Verdict
import LintMend.Proofs.Service.Reported

namespace LintMend

variable {σ : Type}

/-! ## 1. Services -/

/-- A service that logs asides alone: what it reports is not mistaken for what a run reports. -/
def Service.Discreet (svc : Service σ) : Prop :=
  ∀ s prompt, ∀ e ∈ (svc.answer s prompt).events, e.IsAside

theorem Log.Event.OfRequest.isAside {e : Log.Event} (h : e.OfRequest) : e.IsAside := by
  cases e with
  | requestStarted | requestCompleted | requestFailed | requestRefused | bodyUnreadable =>
    exact ⟨rfl, id⟩
  | _ => exact False.elim h

/-- The client of the service logs asides alone. -/
theorem ServiceClient.discreet (c : ServiceClient) : c.service.Discreet := by
  intro l prompt e he
  obtain ⟨es, hlog, hall⟩ := generate_log c { l with log := [] } prompt
  have hevents : (c.service.answer l prompt).events = es := hlog
  rw [hevents] at he
  exact (hall e he).isAside

theorem Service.discreet_ofScript (model : Text) : (ofScript model).Discreet := by
  rintro (_ | ⟨r, rest⟩) prompt e he <;> exact absurd he List.not_mem_nil

/-! ## 2. Worlds -/

namespace World

/-- A world has gone on to another one, and these events were logged meanwhile. -/
structure Adds (w w' : World σ) (es : List Log.Event) : Prop where
  context : w'.context = w.context
  log : w'.log = w.log ++ es.map fun e => ⟨e, w.context⟩

namespace Adds

variable {w w' w'' : World σ} {es es' : List Log.Event}

theorem of_eq (hcontext : w'.context = w.context) (hlog : w'.log = w.log) : w.Adds w' [] :=
  ⟨hcontext, hlog.trans (List.append_nil _).symm⟩

theorem refl (w : World σ) : w.Adds w [] :=
  of_eq rfl rfl

theorem trans (h : w.Adds w' es) (h' : w'.Adds w'' es') : w.Adds w'' (es ++ es') := by
  refine ⟨h'.context.trans h.context, ?_⟩
  rw [h'.log, h.log, h.context, List.map_append, List.append_assoc]

end Adds

theorem adds_emit (w : World σ) (e : Log.Event) : w.Adds (w.emit e) [e] :=
  ⟨rfl, rfl⟩

theorem adds_emitAll (w : World σ) (es : List Log.Event) : w.Adds (w.emitAll es) es :=
  ⟨rfl, rfl⟩

/-- A world has gone on to another one, and only asides were logged meanwhile. -/
def AddsAsides (w w' : World σ) : Prop :=
  ∃ es, w.Adds w' es ∧ ∀ e ∈ es, e.IsAside

namespace AddsAsides

variable {w w' w'' : World σ}

theorem of_eq (hcontext : w'.context = w.context) (hlog : w'.log = w.log) : w.AddsAsides w' :=
  ⟨[], .of_eq hcontext hlog, List.forall_mem_nil _⟩

theorem refl (w : World σ) : w.AddsAsides w :=
  of_eq rfl rfl

theorem trans (h : w.AddsAsides w') (h' : w'.AddsAsides w'') : w.AddsAsides w'' := by
  obtain ⟨es, hadds, hall⟩ := h
  obtain ⟨es', hadds', hall'⟩ := h'
  exact ⟨es ++ es', hadds.trans hadds', List.forall_mem_append.mpr ⟨hall, hall'⟩⟩

end AddsAsides

theorem addsAsides_emit (w : World σ) {e : Log.Event} (h : e.IsAside) :
    w.AddsAsides (w.emit e) :=
  ⟨[e], w.adds_emit e, List.forall_mem_singleton.mpr h⟩

theorem addsAsides_emitAll (w : World σ) {es : List Log.Event} (h : ∀ e ∈ es, e.IsAside) :
    w.AddsAsides (w.emitAll es) :=
  ⟨es, w.adds_emitAll es, h⟩

theorem addsAsides_othersAct (w : World σ) : w.AddsAsides w.othersAct := by
  unfold othersAct
  split <;> exact .of_eq rfl rfl

end World

open World (Adds AddsAsides)
open Log (Truthful verdicts tell)

namespace Fixer

variable {f : Fixer σ} {w w' : World σ} {s s' : Session} {d : Diagnostic}

/-! ## 3. One attempt -/

theorem isAside_of_mem_usableContent {result : Except Failure Json} {e : Log.Event}
    (h : e ∈ (usableContent result).1) : e.IsAside := by
  have hcheck : ∀ value, ∀ e ∈ (Envelope.check value).1, e.IsAside := by
    intro value e he
    unfold Envelope.check at he
    split at he
    · split at he
      · exact absurd he List.not_mem_nil
      · obtain rfl := List.mem_singleton.mp he
        exact ⟨rfl, id⟩
    · exact absurd he List.not_mem_nil
  cases result with
  | error failure => exact absurd h List.not_mem_nil
  | ok value =>
    have hchecked := hcheck value
    rcases hvalue : Envelope.check value with ⟨events, failure | envelope⟩
    · simp only [usableContent, replyContent, hvalue] at h hchecked
      exact hchecked e h
    · simp only [usableContent, replyContent, hvalue] at h hchecked
      split at h <;> exact hchecked e h

theorem addsAsides_request (hservice : f.service.Discreet) (w : World σ) (s : Session)
    (d : Diagnostic) : w.AddsAsides (f.request w s d).1 := by
  let requested := w.emit (.fixRequested d.line d.column d.rule)
  let answered := requested.ask f.service (FixRequest.of d s.current).prompt
  have hrequested : w.AddsAsides requested := w.addsAsides_emit ⟨rfl, id⟩
  have hanswered : requested.AddsAsides answered.1 := ⟨_, ⟨rfl, rfl⟩, hservice _ _⟩
  have hlooked : answered.1.AddsAsides (answered.1.emitAll (usableContent answered.2).1) :=
    answered.1.addsAsides_emitAll fun e he => isAside_of_mem_usableContent he
  exact (hrequested.trans hanswered).trans hlooked

theorem addsAsides_writeContent (f : Fixer σ) (w : World σ) (path content : Text) :
    w.AddsAsides (f.writeContent w path content).1 := by
  have hwrite : ∀ tree, ∀ e ∈ (f.files.write tree path content).2.1, e.IsAside := by
    intro tree e he
    unfold SourceFiles.write at he
    simp only at he
    split at he
    · unfold SourceFiles.writeEvents at he
      split at he
      · obtain rfl := List.mem_singleton.mp he
        exact ⟨rfl, id⟩
      · exact absurd he List.not_mem_nil
    · exact absurd he List.not_mem_nil
  unfold writeContent
  split
  · exact .of_eq rfl rfl
  · refine (w.addsAsides_othersAct).trans ?_
    exact ⟨_, ⟨rfl, rfl⟩, hwrite _⟩

/-- The counter of a session for attempts that end in a certain way. -/
def counter (s : Session) : Log.Ending → Nat
  | .applied => s.applied
  | .simulated => s.wouldApply
  | .failed => s.failed

/-- An attempt has ended: the verdict on its outcome is logged, with the session's counter. -/
def Concluded (w : World σ) (r : World σ × Session × Outcome) : Prop :=
  ∃ e, w.Adds r.1 [e] ∧ e.verdict? = some (r.2.2.verdict (counter r.2.1 r.2.2.ending)) ∧
    ¬ e.IsFrame

theorem concluded_fail (w : World σ) (s : Session) (d : Diagnostic) {status : Status}
    (hstatus : status.succeeded = false) (error : Text) :
    Concluded w (fail w s d status error) := by
  refine ⟨_, w.adds_emit _, ?_, id⟩
  cases status <;> first | rfl | exact absurd hstatus (by decide)

theorem concluded_failAnswer (f : Fixer σ) (w : World σ) (s : Session) (d : Diagnostic)
    (failure : Failure) :
    ∃ left, w.AddsAsides left ∧ Concluded left (f.failAnswer w s d failure) := by
  have hstatus : (statusOf failure).succeeded = false := by
    cases failure <;> rfl
  unfold failAnswer
  simp only
  split
  · exact ⟨_, w.addsAsides_emit ⟨rfl, id⟩, concluded_fail _ s d hstatus _⟩
  · exact ⟨w, .refl w, concluded_fail w s d hstatus _⟩

theorem concluded_failWrite (f : Fixer σ) (w : World σ) (s : Session) (d : Diagnostic)
    (failure : Failure) :
    ∃ left, w.AddsAsides left ∧ Concluded left (f.failWrite w s d failure) := by
  unfold failWrite
  simp only
  split
  · exact ⟨w, .refl w, concluded_fail w s d rfl _⟩
  · exact ⟨_, w.addsAsides_emit ⟨rfl, id⟩, concluded_fail _ s d rfl _⟩

theorem concluded_simulate (w : World σ) (s : Session) (d : Diagnostic) (content : Text) :
    Concluded w (simulate w s d content) :=
  ⟨_, w.adds_emit _, rfl, id⟩

theorem concluded_apply (w : World σ) (s : Session) (d : Diagnostic) (content : Text) :
    Concluded w (apply w s d content) :=
  ⟨_, w.adds_emit _, rfl, id⟩

/-- **An attempt logs some asides and the verdict on its outcome**, with the session's counter. -/
theorem Attempted.concluded {r : World σ × Session × Outcome} (hservice : f.service.Discreet)
    (h : Attempted f w s d r) : ∃ left, w.AddsAsides left ∧ Concluded left r := by
  have hothers := w.addsAsides_othersAct
  have hrequest := hothers.trans (addsAsides_request hservice w.othersAct s d)
  cases h with
  | missing => exact ⟨_, hothers, concluded_fail _ s d rfl _⟩
  | refused _ hasked =>
    rw [hasked] at hrequest
    obtain ⟨left, hleft, hconcluded⟩ := concluded_failAnswer f _ s d _
    exact ⟨left, hrequest.trans hleft, hconcluded⟩
  | simulated _ hasked =>
    rw [hasked] at hrequest
    exact ⟨_, hrequest, concluded_simulate _ s d _⟩
  | @unwritten asked _ content _ _ hasked _ hwritten =>
    rw [hasked] at hrequest
    have hwrite := addsAsides_writeContent f asked s.path content
    rw [hwritten] at hwrite
    obtain ⟨left, hleft, hconcluded⟩ := concluded_failWrite f _ s d _
    exact ⟨left, (hrequest.trans hwrite).trans hleft, hconcluded⟩
  | @written asked _ content _ hasked _ hwritten =>
    rw [hasked] at hrequest
    have hwrite := addsAsides_writeContent f asked s.path content
    rw [hwritten] at hwrite
    exact ⟨_, hrequest.trans hwrite, concluded_apply _ s d _⟩

/-! ## 4. Rows of attempts -/

theorem counter_eq {s : Session} (h : s.Tallied) (ending : Log.Ending) :
    counter s ending = s.outcomes.countP (·.ending = ending) := by
  have hending : ∀ o : Outcome, (o.ending = .applied ↔ o.status = .applied) ∧
      (o.ending = .simulated ↔ o.status = .wouldApply) ∧
      (o.ending = .failed ↔ o.succeeded = false) := by
    intro o
    cases hstatus : o.status <;>
      simp [Outcome.ending, Outcome.succeeded, Status.succeeded, hstatus]
  cases ending with
  | applied => simp only [counter, h.applied, fun o => (hending o).1]
  | simulated => simp only [counter, h.wouldApply, fun o => (hending o).2.1]
  | failed =>
    simp only [counter, h.failed, fun o => (hending o).2.2]
    congr 1
    funext o
    cases o.succeeded <;> rfl

/-- **Attempts in a row log the verdicts on their outcomes**, with counts that go on from those of
the session. -/
theorem AttemptedAll.adds {ds : List Diagnostic} {os : List Outcome}
    (hservice : f.service.Discreet) (h : AttemptedAll f w s ds os w' s') (hs : s.Tallied) :
    ∃ es, w.Adds w' es ∧ (∀ e ∈ es, ¬ e.IsFrame) ∧
      es.filterMap (·.verdict?) = tell s.outcomes os := by
  induction h with
  | done w s => exact ⟨[], .refl w, List.forall_mem_nil _, rfl⟩
  | @next w w₁ w' s s₁ s' d rest o os hd _ ih =>
    obtain ⟨left, ⟨asides, hasides, hall⟩, e, hadds, hverdict, hframe⟩ := hd.concluded hservice
    obtain ⟨es, hrest, hframes, htold⟩ := ih (hd.tallied hs)
    have hcount : counter s₁ o.ending = s.outcomes.countP (·.ending = o.ending) + 1 := by
      rw [counter_eq (hd.tallied hs), hd.recorded.outcomes, List.countP_append]
      simp
    refine ⟨asides ++ [e] ++ es, (hasides.trans hadds).trans hrest, ?_, ?_⟩
    · refine List.forall_mem_append.mpr ⟨List.forall_mem_append.mpr ⟨?_, ?_⟩, hframes⟩
      · exact fun e he => (hall e he).2
      · exact List.forall_mem_singleton.mpr hframe
    · have hnone : asides.filterMap (·.verdict?) = [] :=
        List.filterMap_eq_nil_iff.mpr fun e he => (hall e he).1
      rw [List.filterMap_append, List.filterMap_append, hnone, htold, hd.recorded.outcomes,
        Log.tell, ← hcount]
      simp [hverdict]

/-! ## 5. One file -/

/-- What is logged of a file whose diagnostics have some outcomes, before its summary. -/
theorem fixGroup_adds {path : Text} {ds : List Diagnostic} {summary : FileSummary}
    (hservice : f.service.Discreet) (h : f.fixGroup w path ds = (w', .ok summary)) :
    ∃ es, w.Adds w' es ∧ (∀ e ∈ es, ¬ e.IsFrame) ∧
      (∀ content, (f.readFile w path).2 = .ok content →
        es.filterMap (·.verdict?) = tell [] summary.outcomes) ∧
      ∀ failure, (f.readFile w path).2 = .error failure → es.filterMap (·.verdict?) = [] := by
  have hopened : w.AddsAsides (f.readFile w path).1 :=
    w.addsAsides_othersAct.trans w.othersAct.addsAsides_othersAct
  rcases hread : f.readFile w path with ⟨opened, failure | content⟩
  -- a file that is not read is reported in one event, and that is no verdict
  · rw [hread] at hopened
    obtain ⟨e, hevent, hgroup⟩ := fixGroup_reports_unread hread ds
    obtain ⟨rfl, -⟩ := Prod.mk.inj (hgroup.symm.trans h)
    have haside : e.IsAside := by
      rcases hevent with rfl | ⟨error, rfl⟩ <;> exact ⟨rfl, id⟩
    obtain ⟨es, hadds, hall⟩ := hopened.trans (opened.addsAsides_emit haside)
    refine ⟨es, hadds, fun e he => (hall e he).2, ?_, ?_⟩
    · intro content hcontent
      exact absurd hcontent (by simp)
    · intro _ _
      exact List.filterMap_eq_nil_iff.mpr fun e he => (hall e he).1
  -- else what is logged is the start of the session and then what its attempts log
  · rw [hread] at hopened
    rw [fixGroup_of_read hread] at h
    have hstarted := hopened.trans (opened.addsAsides_emit (e := .sessionStarted ds.length)
      ⟨rfl, id⟩)
    rcases hall : f.fixAll (opened.emit (.sessionStarted ds.length)) (.start path content) ds with
      ⟨left, failure | s⟩
    · simp [hall, Except.map] at h
    rw [hall] at h
    obtain ⟨rfl, hsummary⟩ := Prod.mk.inj h
    obtain rfl := Except.ok.inj hsummary
    obtain ⟨os, hos⟩ := fixAll_eq_ok_iff.mp hall
    obtain ⟨asides, hasides, haside⟩ := hstarted
    obtain ⟨es, hadds, hframes, htold⟩ := hos.adds hservice (Session.tallied_start path content)
    refine ⟨asides ++ es, hasides.trans hadds, ?_, ?_, ?_⟩
    · exact List.forall_mem_append.mpr ⟨fun e he => (haside e he).2, hframes⟩
    · intro _ _
      have hnone : asides.filterMap (·.verdict?) = [] :=
        List.filterMap_eq_nil_iff.mpr fun e he => (haside e he).1
      have houtcomes : s.summary.outcomes = os := hos.recorded.2.1
      rw [List.filterMap_append, hnone, htold, houtcomes]
      rfl
    · intro failure hfailure
      exact absurd hfailure (by simp)

/-! ## 6. Blocks -/

/-- The records of a file, logged in some context: they all carry its path, and end with its
summary, which tells the numbers that are returned. If the file was read, they tell the truth about
its diagnostics, and otherwise they tell nothing of these. -/
structure LoggedFile (f : Fixer σ) (context : Log.Fields) (w : World σ) (path : Text)
    (ds : List Diagnostic) (summary : FileSummary) (records : List Log.Record) : Prop where
  bound : ∀ r ∈ records, r.context = context.set "file" (.text path)
  carried : ∀ r ∈ records, r.context.get? "file" = some (.text path)
  ended : ∃ body, records = body ++ [⟨.fileSummary summary.applied summary.wouldApply summary.total
    summary.failed, context.set "file" (.text path)⟩] ∧ ∀ r ∈ body, ¬ r.event.IsFrame
  diagnostics : summary.path = path ∧ summary.outcomes.map (·.diagnostic) = ds
  read : ∀ content, (f.readFile w path).2 = .ok content → Truthful records summary.outcomes
  unread : ∀ failure, (f.readFile w path).2 = .error failure → verdicts records = []

/-- The records of several files, one block for each, in the order in which they are fixed. -/
inductive LoggedFiles (f : Fixer σ) (context : Log.Fields) : World σ →
    List (Text × List Diagnostic) → List FileSummary → List (List Log.Record) → Prop
  | done (w : World σ) : LoggedFiles f context w [] [] []
  | next {w w' : World σ} {path : Text} {ds : List Diagnostic}
      {rest : List (Text × List Diagnostic)} {summary : FileSummary} {files : List FileSummary}
      {records : List Log.Record} {blocks : List (List Log.Record)} :
      f.fixFile w path ds = (w', .ok summary) →
      LoggedFile f context w path ds summary records → LoggedFiles f context w' rest files blocks →
      LoggedFiles f context w ((path, ds) :: rest) (summary :: files) (records :: blocks)

theorem readFile_bind (f : Fixer σ) (w : World σ) (name : Text) (value : Log.Value) (path : Text) :
    (f.readFile (w.bind name value) path).2 = (f.readFile w path).2 := by
  have hothers : (w.bind name value).othersAct = w.othersAct.bind name value := by
    obtain ⟨tree, service, others, writeFault, prompts, context, log⟩ := w
    cases others <;> rfl
  have hagain : (w.othersAct.bind name value).othersAct =
      w.othersAct.othersAct.bind name value := by
    obtain ⟨tree, service, others, writeFault, prompts, context, log⟩ := w.othersAct
    cases others <;> rfl
  simp only [readFile, hothers, hagain]
  rfl

/-- **What fixing a file adds to the log.** -/
theorem fixFile_logs {path : Text} {ds : List Diagnostic} {summary : FileSummary}
    (hservice : f.service.Discreet) (h : f.fixFile w path ds = (w', .ok summary)) :
    ∃ records, w'.log = w.log ++ records ∧
      LoggedFile f w.context w path ds summary records := by
  have haccounted := fixFile_accounted h
  rcases hgroup : f.fixGroup (w.bind "file" (.text path)) path ds with ⟨left, failure | found⟩
  · simp [fixFile, hgroup] at h
  rw [fixFile, hgroup] at h
  obtain ⟨rfl, hsummary⟩ := Prod.mk.inj h
  obtain rfl := Except.ok.inj hsummary
  obtain ⟨es, hadds, hframes, hread, hunread⟩ := fixGroup_adds hservice hgroup
  rw [readFile_bind] at hread hunread
  let context := w.context.set "file" (.text path)
  let last := Log.Event.fileSummary found.applied found.wouldApply found.total found.failed
  have hcontext : left.context = context := hadds.context
  have htold : verdicts (es.map (fun e => ⟨e, context⟩) ++ [⟨last, context⟩]) =
      es.filterMap (·.verdict?) := by
    rw [Log.verdicts_append, verdicts, List.filterMap_map]
    exact List.append_nil _
  -- every record of the file's work is bound to the file, and the last one is its summary
  have hbound : ∀ r ∈ es.map (fun e => (⟨e, context⟩ : Log.Record)) ++ [⟨last, context⟩],
      r.context = context := by
    intro r hr
    rcases List.mem_append.mp hr with hr | hr
    · obtain ⟨e, -, rfl⟩ := List.mem_map.mp hr
      rfl
    · rw [List.mem_singleton.mp hr]
  refine ⟨es.map (fun e => ⟨e, context⟩) ++ [⟨last, context⟩], ?_, hbound, ?_, ?_, ?_, ?_, ?_⟩
  · show left.log ++ [⟨last, left.context⟩] = _
    rw [hadds.log, hcontext, List.append_assoc]
    rfl
  · intro r hr
    rw [hbound r hr]
    exact Log.Fields.get?_set "file" (.text path) w.context
  · refine ⟨_, rfl, fun r hr => ?_⟩
    obtain ⟨e, he, rfl⟩ := List.mem_map.mp hr
    exact hframes e he
  · exact ⟨haccounted.path, haccounted.diagnostics⟩
  · intro content hcontent
    exact Log.truthful_of_tell (htold.trans (hread content hcontent))
  · intro failure hfailure
    exact htold.trans (hunread failure hfailure)

theorem fixFiles_logs {groups : List (Text × List Diagnostic)} {files : List FileSummary}
    (hservice : f.service.Discreet) (hfree : w.context.get? "file" = none)
    (h : f.fixFiles w groups = (w', .ok files)) :
    ∃ blocks, w'.log = w.log ++ blocks.flatten ∧
      LoggedFiles f w.context w groups files blocks := by
  rw [fixFiles_eq_ok_iff] at h
  induction h with
  | done w => exact ⟨[], (List.append_nil _).symm, .done w⟩
  | @next w w₁ _ group _ _ _ hfile _ ih =>
    -- the context is free again after a file, so the next one binds its own path in it
    have hcontext : w₁.context = w.context := by
      have hrestored := context_fixFile f hfree group.1 group.2
      rwa [hfile] at hrestored
    obtain ⟨records, hlog, hlogged⟩ := fixFile_logs hservice hfile
    obtain ⟨blocks, hlogs, hall⟩ := ih (by rw [hcontext]; exact hfree)
    rw [hcontext] at hall
    refine ⟨records :: blocks, ?_, .next hfile hlogged hall⟩
    rw [hlogs, hlog, List.append_assoc, List.flatten_cons]

/-! ## 7. The whole run -/

/-- The record in which a run tells how it ended. -/
def completion (f : Fixer σ) (context : Log.Fields) (r : RunSummary) : Log.Record :=
  ⟨.runComplete r.files.length r.total r.applied r.wouldApply r.failed f.dryRun, context⟩

/-- The record in which a run tells what it is to do. -/
def announcement (f : Fixer σ) (context : Log.Fields) (ds : List Diagnostic) : Log.Record :=
  ⟨.runStarting ds.length (Diagnostic.groupByFile ds).length f.service.model f.dryRun, context⟩

theorem isEmpty_groupByFile_of_ne_nil {ds : List Diagnostic} (h : ds ≠ []) :
    (Diagnostic.groupByFile ds).isEmpty = false := by
  rw [List.isEmpty_eq_false_iff]
  intro hempty
  have hperm := Diagnostic.groupByFile_perm ds
  rw [hempty] at hperm
  exact h hperm.nil_eq.symm

section Run

variable {f : Fixer σ} {w left : World σ} {ds : List Diagnostic}

theorem run_of_fixFiles_error {failure : Failure} (hne : ds ≠ [])
    (h : f.fixFiles (f.started w ds) (Diagnostic.groupByFile ds) = (left, .error failure)) :
    f.run w ds = (left, .error failure) := by
  rw [started] at h
  simp only [run, isEmpty_groupByFile_of_ne_nil hne, h, Bool.false_eq_true, if_false]

theorem run_of_fixFiles_ok {files : List FileSummary} (hne : ds ≠ [])
    (h : f.fixFiles (f.started w ds) (Diagnostic.groupByFile ds) = (left, .ok files)) :
    f.run w ds = (left.emit (completion f w.context ⟨files⟩).event, .ok ⟨files⟩) := by
  rw [started] at h
  simp only [run, isEmpty_groupByFile_of_ne_nil hne, h, Bool.false_eq_true, if_false, completion]

end Run

/-- **The log tells the truth about a run** that starts with no file bound in the context. The
context comes back whatever the result is. A run that returns adds one block of records for each
file, in order, and no other record carries a file; before them it tells what it is to do, and after
them how it ended, with the numbers that are returned. -/
theorem run_log_truthful (f : Fixer σ) (w : World σ) (ds : List Diagnostic)
    (hfree : w.context.get? "file" = none) :
    (f.run w ds).1.context = w.context ∧
    (f.service.Discreet → ∀ r, (f.run w ds).2 = .ok r →
      (ds = [] ∧ (f.run w ds).1.log = w.log ++ [⟨.nothingToFix, w.context⟩]) ∨
      ∃ blocks,
        LoggedFiles f w.context (f.started w ds) (Diagnostic.groupByFile ds) r.files blocks ∧
        (f.run w ds).1.log = w.log ++ [announcement f w.context ds] ++ blocks.flatten ++
          [completion f w.context r]) := by
  have hstarted : (f.started w ds).context.get? "file" = none := hfree
  have hcontext := context_fixFiles f (Diagnostic.groupByFile ds) (f.started w ds) hstarted
  by_cases hnone : ds = []
  · subst hnone
    refine ⟨rfl, fun _ r hr => .inl ⟨rfl, rfl⟩⟩
  rcases hfiles : f.fixFiles (f.started w ds) (Diagnostic.groupByFile ds) with
    ⟨left, failure | files⟩
  · rw [hfiles] at hcontext
    rw [run_of_fixFiles_error hnone hfiles]
    exact ⟨hcontext, fun _ r hr => absurd hr (by simp)⟩
  · rw [hfiles] at hcontext
    rw [run_of_fixFiles_ok hnone hfiles]
    refine ⟨hcontext, fun hservice r hr => .inr ?_⟩
    obtain rfl := Except.ok.inj hr
    obtain ⟨blocks, hlog, hlogged⟩ := fixFiles_logs hservice hstarted hfiles
    refine ⟨blocks, hlogged, ?_⟩
    have hcontext' : left.context = w.context := hcontext
    show left.log ++ [⟨(completion f w.context ⟨files⟩).event, left.context⟩] = _
    rw [hlog, hcontext']
    rfl

/-- In a run that fixes one of two findings, the block of their file has one verdict for each. -/
theorem run_log_truthful_sample :
    sampleWorld.context.get? "file" = none ∧ sampleFixer.service.Discreet ∧
    ∃ records, (∀ r ∈ records, r.context.get? "file" = some (.text "A")) ∧
      (verdicts records).map (·.ending) = [.applied, .failed] ∧
      (sampleFixer.run sampleWorld [sampleFinding, sampleFinding]).1.log =
        [announcement sampleFixer [] [sampleFinding, sampleFinding]] ++ records ++
          [completion sampleFixer [] sampleSummary] := by
  have hdiscreet : sampleFixer.service.Discreet := Service.discreet_ofScript "m"
  have hgroups : Diagnostic.groupByFile [sampleFinding, sampleFinding] =
      [(sampleFinding.file, [sampleFinding, sampleFinding])] := by rfl
  obtain ⟨-, hlog⟩ := run_log_truthful sampleFixer sampleWorld [sampleFinding, sampleFinding] rfl
  obtain ⟨hnone, -⟩ | ⟨blocks, hblocks, hlog⟩ := hlog hdiscreet sampleSummary run_sample
  · exact absurd hnone (by simp)
  rw [hgroups] at hblocks
  obtain _ | @⟨_, _, _, _, _, _, _, records, blocks, -, hlogged, hrest⟩ := hblocks
  cases hrest with
  | done =>
    have hread : (sampleFixer.readFile (sampleFixer.started sampleWorld
        [sampleFinding, sampleFinding]) sampleFinding.file).2 = .ok "a" := by cbv
    refine ⟨rfl, hdiscreet, records, hlogged.carried, (hlogged.read "a" hread).endings, ?_⟩
    rw [hlog, List.flatten_singleton]
    rfl

end Fixer

end LintMend
