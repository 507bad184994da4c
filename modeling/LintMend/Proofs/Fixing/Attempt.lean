/-
LintMend.Proofs.Fixing.Attempt — all that one attempt to fix a diagnostic can do.

An attempt that comes to an outcome ends in one of five ways, and `Attempted` names them with what
was seen, asked and written on the way. What later modules say about an attempt is said once for
each way to end, and about a row of attempts by induction from there.

  `fixDiagnostic_cases`     — all that an attempt can do
  `fixDiagnostic_eq_ok_iff` — an attempt with an outcome ends in one of the five ways
  `Attempted.recorded`, `Attempted.tallied`, `Attempted.sent` — what all of these have in common
  `fixAll_eq_ok_iff`        — a row of attempts
  `fixGroup_of_read`, `fixGroup_of_unread`, `fixFiles_eq_ok_iff`, `run_eq` — files and runs
  `fixAll_across`, `fixFiles_across` — what holds across one step holds across all
-/
import LintMend.Proofs.Reply.Usable
import LintMend.Proofs.SourceFiles.Writing

namespace LintMend

variable {σ : Type}

/-! ## 1. Worlds -/

namespace World

/-- A world that differs from another one in its log and nothing else. -/
structure Logs (w w' : World σ) : Prop where
  tree : w'.tree = w.tree
  service : w'.service = w.service
  others : w'.others = w.others
  writeFault : w'.writeFault = w.writeFault
  draws : w'.draws = w.draws
  prompts : w'.prompts = w.prompts

theorem Logs.refl (w : World σ) : w.Logs w :=
  ⟨rfl, rfl, rfl, rfl, rfl, rfl⟩

theorem Logs.trans {w w' w'' : World σ} (h : w.Logs w') (h' : w'.Logs w'') : w.Logs w'' :=
  ⟨h'.tree.trans h.tree, h'.service.trans h.service, h'.others.trans h.others,
    h'.writeFault.trans h.writeFault, h'.draws.trans h.draws, h'.prompts.trans h.prompts⟩

theorem logs_emit (w : World σ) (e : Log.Event) : w.Logs (w.emit e) :=
  ⟨rfl, rfl, rfl, rfl, rfl, rfl⟩

@[simp] theorem othersAct_service (w : World σ) : w.othersAct.service = w.service := by
  unfold othersAct
  split <;> rfl

@[simp] theorem othersAct_writeFault (w : World σ) : w.othersAct.writeFault = w.writeFault := by
  unfold othersAct
  split <;> rfl

@[simp] theorem othersAct_draws (w : World σ) : w.othersAct.draws = w.draws := by
  unfold othersAct
  split <;> rfl

@[simp] theorem othersAct_prompts (w : World σ) : w.othersAct.prompts = w.prompts := by
  unfold othersAct
  split <;> rfl

/-- Where nobody else is at work nothing happens. -/
theorem othersAct_of_alone {w : World σ} (h : w.others = []) : w.othersAct = w := by
  rw [othersAct, h]

end World

/-! ## 2. Sessions -/

namespace Status

variable {status : Status}

theorem succeeded_iff : status.succeeded = true ↔ status = .applied ∨ status = .wouldApply := by
  cases status <;> simp [succeeded]

theorem failed_iff : status.succeeded = false ↔ status ≠ .applied ∧ status ≠ .wouldApply := by
  rw [← Bool.not_eq_true, succeeded_iff, not_or]

end Status

namespace Session

/-- The counters of a session are the numbers of its outcomes of each kind. -/
structure Tallied (s : Session) : Prop where
  applied : s.applied = s.outcomes.countP (·.status = .applied)
  wouldApply : s.wouldApply = s.outcomes.countP (·.status = .wouldApply)
  failed : s.failed = s.outcomes.countP (!·.succeeded)

theorem tallied_start (path content : Text) : (start path content).Tallied :=
  ⟨rfl, rfl, rfl⟩

theorem Tallied.recordFailure {s : Session} {o : Outcome} (h : s.Tallied)
    (ho : o.succeeded = false) : (s.recordFailure o).Tallied := by
  have hstatus := Status.failed_iff.mp ho
  constructor
  · simp [Session.recordFailure, h.applied, hstatus.1]
  · simp [Session.recordFailure, h.wouldApply, hstatus.2]
  · simp [Session.recordFailure, h.failed, ho]

theorem Tallied.recordSuccess {s : Session} {o : Outcome} (h : s.Tallied)
    (ho : o.succeeded = true) (content : Text) : (s.recordSuccess o content).Tallied := by
  rcases Status.succeeded_iff.mp ho with hs | hs
  · constructor <;> simp [Session.recordSuccess, hs, h.applied, h.wouldApply, h.failed, ho]
  · constructor <;> simp [Session.recordSuccess, hs, h.applied, h.wouldApply, h.failed, ho]

@[simp] theorem recordSuccess_path (s : Session) (o : Outcome) (content : Text) :
    (s.recordSuccess o content).path = s.path := by
  unfold recordSuccess
  split <;> rfl

end Session

namespace Fixer

variable {f : Fixer σ} {w w' : World σ} {s s' : Session} {d : Diagnostic} {o : Outcome}

/-! ## 3. Asking and writing -/

/-- What a request does: it sends one prompt and leaves the rest to the service. -/
structure Asked (f : Fixer σ) (w : World σ) (s : Session) (d : Diagnostic) (w' : World σ)
    (result : Except Failure Text) : Prop where
  prompts : w'.prompts = w.prompts ++ [Prompt.text d s.current]
  others : w'.others = w.others
  service : w'.service = (f.service.answer w.service (Prompt.text d s.current)).next
  tree : w'.tree = (f.service.answer w.service (Prompt.text d s.current)).change w.tree
  writeFault : w'.writeFault =
    (f.service.answer w.service (Prompt.text d s.current)).writeFault.or w.writeFault
  draws : w'.draws = w.draws
  result : result =
    (usableContent (f.service.answer w.service (Prompt.text d s.current)).result).2

theorem asked_of_request {result : Except Failure Text}
    (h : f.request w s d = (w', result)) : Asked f w s d w' result := by
  obtain ⟨rfl, rfl⟩ := Prod.mk.inj h
  exact ⟨rfl, rfl, rfl, rfl, rfl, rfl, rfl⟩

/-- What a write does: it meets the failure that was set for it, fails of itself or succeeds. -/
inductive Wrote (f : Fixer σ) (w : World σ) (path content : Text) :
    World σ → Except Failure Unit → Prop
  | spoiled {failure : Failure} : w.writeFault = some failure →
      Wrote f w path content { w with writeFault := none } (.error failure)
  | failed {tree : FileTree} {events : List Log.Event} {failure : Failure} {w' : World σ} :
      w.writeFault = none →
      f.files.write w.othersAct.tree path content = (tree, events, .error failure) →
      (w.othersAct.afterWrite tree).Logs w' →
      Wrote f w path content w' (.error (failure.drawn (w.draws 0)))
  | made {tree : FileTree} {events : List Log.Event} {w' : World σ} : w.writeFault = none →
      f.files.write w.othersAct.tree path content = (tree, events, .ok ()) →
      (w.othersAct.afterWrite tree).Logs w' → Wrote f w path content w' (.ok ())

theorem Wrote.prompts {path content : Text} {result : Except Failure Unit}
    (h : Wrote f w path content w' result) : w'.prompts = w.prompts := by
  cases h with
  | spoiled => rfl
  | failed _ _ hlogs | made _ _ hlogs => exact hlogs.prompts.trans w.othersAct_prompts

theorem Wrote.service {path content : Text} {result : Except Failure Unit}
    (h : Wrote f w path content w' result) : w'.service = w.service := by
  cases h with
  | spoiled => rfl
  | failed _ _ hlogs | made _ _ hlogs => exact hlogs.service.trans (World.othersAct_service w)

theorem wrote_of_writeContent {path content : Text} {result : Except Failure Unit}
    (h : f.writeContent w path content = (w', result)) : Wrote f w path content w' result := by
  cases hfault : w.writeFault with
  | some failure =>
    simp only [writeContent, hfault] at h
    obtain ⟨rfl, rfl⟩ := Prod.mk.inj h
    exact .spoiled hfault
  | none =>
    rcases hwrite : f.files.write w.othersAct.tree path content with ⟨tree, events, failure | done⟩
    all_goals
      simp only [writeContent, hfault, hwrite, World.othersAct_draws] at h
      obtain ⟨rfl, rfl⟩ := Prod.mk.inj h
    · exact .failed hfault hwrite ⟨rfl, rfl, rfl, rfl, rfl, rfl⟩
    · exact .made hfault hwrite ⟨rfl, rfl, rfl, rfl, rfl, rfl⟩

/-! ## 4. The ends of an attempt -/

/-- How an attempt that has an outcome ends, with what happened on the way. -/
inductive Attempted (f : Fixer σ) (w : World σ) (s : Session) (d : Diagnostic) :
    World σ × Session × Outcome → Prop
  | missing : f.files.isThere w.othersAct.tree s.path = .ok false →
      Attempted f w s d
        (fail w.othersAct s d .fileNotFound (Failure.sourceMissing s.path).message)
  | refused {asked : World σ} {failure : Failure} :
      f.files.isThere w.othersAct.tree s.path = .ok true →
      f.request w.othersAct s d = (asked, .error failure) → failure ≠ .interrupted →
      Attempted f w s d (f.failAnswer asked s d failure)
  | simulated {asked : World σ} {content : Text} :
      f.files.isThere w.othersAct.tree s.path = .ok true →
      f.request w.othersAct s d = (asked, .ok content) → f.dryRun = true →
      Attempted f w s d (simulate asked s d content)
  | unwritten {asked left : World σ} {content : Text} {failure : Failure} :
      f.files.isThere w.othersAct.tree s.path = .ok true →
      f.request w.othersAct s d = (asked, .ok content) → f.dryRun = false →
      f.writeContent asked s.path content = (left, .error failure) → failure ≠ .interrupted →
      Attempted f w s d (f.failWrite left s d failure)
  | written {asked left : World σ} {content : Text} :
      f.files.isThere w.othersAct.tree s.path = .ok true →
      f.request w.othersAct s d = (asked, .ok content) → f.dryRun = false →
      f.writeContent asked s.path content = (left, .ok ()) →
      Attempted f w s d (apply left s d content)

theorem Attempted.fixDiagnostic_eq {r : World σ × Session × Outcome}
    (h : Attempted f w s d r) : f.fixDiagnostic w s d = (r.1, .ok r.2) := by
  unfold fixDiagnostic
  cases h with
  | missing hthere => simp only [hthere]
  | refused hthere hasked hgo => simp only [hthere, hasked]
  | simulated hthere hasked hdry => simp only [hthere, hasked, hdry, if_true]
  | unwritten hthere hasked hreal hleft hgo =>
    simp only [hthere, hasked, hreal, hleft]
    simp
  | written hthere hasked hreal hleft => simp [hthere, hasked, hreal, hleft]

/-- The operator's stop, in the answer to a request or in the write after it. -/
inductive Stopped (f : Fixer σ) (w : World σ) (s : Session) (d : Diagnostic) : World σ → Prop
  | asking {asked : World σ} : f.request w.othersAct s d = (asked, .error .interrupted) →
      Stopped f w s d asked
  | writing {asked left : World σ} {content : Text} :
      f.request w.othersAct s d = (asked, .ok content) →
      f.writeContent asked s.path content = (left, .error .interrupted) → Stopped f w s d left

/-- **All that an attempt can do**: it fails to look for the file, it is stopped, or it has an
outcome. -/
theorem fixDiagnostic_cases (f : Fixer σ) (w : World σ) (s : Session) (d : Diagnostic) :
    (∃ e, f.files.isThere w.othersAct.tree s.path = .error e ∧
      f.fixDiagnostic w s d = (w.othersAct, .error (f.files.refusal s.path e))) ∨
    (∃ w', Stopped f w s d w' ∧ f.fixDiagnostic w s d = (w', .error .interrupted)) ∨
    ∃ r, Attempted f w s d r := by
  cases hthere : f.files.isThere w.othersAct.tree s.path with
  | error e => exact .inl ⟨e, rfl, by simp only [fixDiagnostic, hthere]⟩
  | ok there =>
    right
    cases there with
    | false => exact .inr ⟨_, .missing hthere⟩
    | true =>
      rcases hasked : f.request w.othersAct s d with ⟨asked, failure | content⟩
      · by_cases hgo : failure = .interrupted
        · subst hgo
          exact .inl ⟨asked, .asking hasked, by simp only [fixDiagnostic, hthere, hasked]⟩
        · exact .inr ⟨_, .refused hthere hasked hgo⟩
      cases hreal : f.dryRun with
      | true => exact .inr ⟨_, .simulated hthere hasked hreal⟩
      | false =>
        rcases hleft : f.writeContent asked s.path content with ⟨left, failure | ⟨⟩⟩
        · by_cases hgo : failure = .interrupted
          · subst hgo
            refine .inl ⟨left, .writing hasked hleft, ?_⟩
            simp [fixDiagnostic, hthere, hasked, hreal, hleft]
          · exact .inr ⟨_, .unwritten hthere hasked hreal hleft hgo⟩
        · exact .inr ⟨_, .written hthere hasked hreal hleft⟩

theorem fixDiagnostic_eq_ok_iff : f.fixDiagnostic w s d = (w', .ok (s', o)) ↔
    Attempted f w s d (w', s', o) := by
  constructor
  · intro h
    rcases fixDiagnostic_cases f w s d with ⟨e, -, he⟩ | ⟨left, -, hleft⟩ | ⟨r, hr⟩
    · simp [he] at h
    · simp [hleft] at h
    · rw [hr.fixDiagnostic_eq] at h
      obtain ⟨rfl, hrest⟩ := Prod.mk.inj h
      rw [← Except.ok.inj hrest]
      exact hr
  · intro h
    exact h.fixDiagnostic_eq

/-! ## 5. What all ends have in common -/

/-- What is recorded of an attempt: its diagnostic, at the end of the session's outcomes. -/
structure Recorded (s : Session) (d : Diagnostic) (s' : Session) (o : Outcome) : Prop where
  diagnostic : o.diagnostic = d
  path : s'.path = s.path
  outcomes : s'.outcomes = s.outcomes ++ [o]

theorem logs_failAnswer (f : Fixer σ) (w : World σ) (s : Session) (d : Diagnostic) (failure : Failure) :
    w.Logs (f.failAnswer w s d failure).1 := by
  simp only [failAnswer, fail]
  split
  · exact (World.logs_emit w _).trans (World.logs_emit _ _)
  · exact World.logs_emit w _

theorem logs_failWrite (f : Fixer σ) (w : World σ) (s : Session) (d : Diagnostic) (failure : Failure) :
    w.Logs (f.failWrite w s d failure).1 := by
  simp only [failWrite, fail]
  split
  · exact World.logs_emit w _
  · exact (World.logs_emit w _).trans (World.logs_emit _ _)

theorem prompts_of_request {result : Except Failure Text}
    (h : f.request w.othersAct s d = (w', result)) :
    w'.prompts = w.prompts ++ [Prompt.text d s.current] := by
  rw [(asked_of_request h).prompts, World.othersAct_prompts]

namespace Attempted

variable {r : World σ × Session × Outcome}

theorem recorded (h : Attempted f w s d r) : Recorded s d r.2.1 r.2.2 := by
  cases h with
  | missing | refused | unwritten => exact ⟨rfl, rfl, rfl⟩
  | simulated | written => exact ⟨rfl, Session.recordSuccess_path .., rfl⟩

/-- An attempt with an outcome has looked for the file and got an answer. -/
theorem looked (h : Attempted f w s d r) :
    ∃ there, f.files.isThere w.othersAct.tree s.path = .ok there := by
  cases h with
  | missing hthere => exact ⟨false, hthere⟩
  | refused hthere | simulated hthere | unwritten hthere | written hthere => exact ⟨true, hthere⟩

/-- The counters stay the numbers of outcomes of each kind. -/
theorem tallied (h : Attempted f w s d r) (hs : s.Tallied) : r.2.1.Tallied := by
  cases h with
  | missing => exact hs.recordFailure rfl
  | @refused asked failure =>
    refine hs.recordFailure ?_
    cases failure <;> rfl
  | unwritten => exact hs.recordFailure rfl
  | simulated => exact hs.recordSuccess rfl _
  | written => exact hs.recordSuccess rfl _

/-- An attempt at a file that is there sends one prompt, and no other attempt sends any. -/
theorem sent (h : Attempted f w s d r) :
    (r.2.2.status = .fileNotFound ∧ r.1.prompts = w.prompts) ∨
    (r.2.2.status ≠ .fileNotFound ∧ r.2.2.status ≠ .readFailed ∧
      r.1.prompts = w.prompts ++ [Prompt.text d s.current]) := by
  cases h with
  | missing => exact .inl ⟨rfl, w.othersAct_prompts⟩
  | @refused asked failure _ hasked =>
    have hlogs := logs_failAnswer f asked s d failure
    refine .inr ⟨?_, ?_, hlogs.prompts.trans (prompts_of_request hasked)⟩
    · cases failure <;> simp [failAnswer, fail, statusOf]
    · cases failure <;> simp [failAnswer, fail, statusOf]
  | @simulated asked _ _ hasked =>
    have hlogs := World.logs_emit asked
    exact .inr ⟨by simp [simulate], by simp [simulate],
      (hlogs _).prompts.trans (prompts_of_request hasked)⟩
  | @unwritten asked left _ failure _ hasked _ hleft =>
    have hlogs := logs_failWrite f left s d failure
    have hwrote := (wrote_of_writeContent hleft).prompts
    exact .inr ⟨by simp [failWrite, fail], by simp [failWrite, fail],
      hlogs.prompts.trans (hwrote.trans (prompts_of_request hasked))⟩
  | written _ hasked _ hleft =>
    have hwrote := (wrote_of_writeContent hleft).prompts
    exact .inr ⟨by simp [apply], by simp [apply], hwrote.trans (prompts_of_request hasked)⟩

/-- A dry run applies nothing and a real run simulates nothing. -/
theorem status_ne (h : Attempted f w s d r) :
    r.2.2.status ≠ if f.dryRun then .applied else .wouldApply := by
  cases h with
  | missing => split <;> simp [fail]
  | @refused asked failure => split <;> cases failure <;> simp [failAnswer, fail, statusOf]
  | simulated _ _ hdry => simp [simulate, hdry]
  | unwritten => split <;> simp [failWrite, fail]
  | written _ _ hreal => simp [apply, hreal]

end Attempted

/-! ## 6. Rows of attempts -/

/-- Attempts in a row, with their outcomes. -/
inductive AttemptedAll (f : Fixer σ) : World σ → Session → List Diagnostic → List Outcome →
    World σ → Session → Prop
  | done (w : World σ) (s : Session) : AttemptedAll f w s [] [] w s
  | next {w w₁ w' : World σ} {s s₁ s' : Session} {d : Diagnostic} {rest : List Diagnostic}
      {o : Outcome} {os : List Outcome} : Attempted f w s d (w₁, s₁, o) →
      AttemptedAll f w₁ s₁ rest os w' s' → AttemptedAll f w s (d :: rest) (o :: os) w' s'

theorem fixAll_eq_ok_iff {ds : List Diagnostic} : f.fixAll w s ds = (w', .ok s') ↔
    ∃ os, AttemptedAll f w s ds os w' s' := by
  constructor
  · intro h
    induction ds generalizing w s with
    | nil =>
      obtain ⟨rfl, hrest⟩ := Prod.mk.inj h
      obtain rfl := Except.ok.inj hrest
      exact ⟨[], .done w s⟩
    | cons d rest ih =>
      rw [fixAll] at h
      split at h
      · simp at h
      · next w₁ s₁ o hd =>
        obtain ⟨os, hrest⟩ := ih h
        exact ⟨o :: os, .next (fixDiagnostic_eq_ok_iff.mp hd) hrest⟩
  · rintro ⟨os, h⟩
    induction h with
    | done => rfl
    | next hd _ ih => rw [fixAll, fixDiagnostic_eq_ok_iff.mpr hd]; exact ih

/-! ## 7. Files and runs -/

theorem opened_of_readFile {path : Text} {result : Except Failure Text}
    (h : f.readFile w path = (w', result)) : w' = w.othersAct.othersAct :=
  (Prod.mk.inj h).1.symm

/-- The status that a file which cannot be read gives all its diagnostics. -/
def unreadStatus : Failure → Status
  | .sourceMissing _ => .fileNotFound
  | _ => .readFailed

/-- A file that cannot be read is reported once, with the number of its diagnostics. -/
theorem fixGroup_reports_unread {path : Text} {failure : Failure}
    (h : f.readFile w path = (w', .error failure)) (ds : List Diagnostic) :
    ∃ e, (e = .fileNotFound ds.length ∨ ∃ error, e = .fileReadFailed ds.length error) ∧
      f.fixGroup w path ds =
        (w'.emit e, .ok (.allFailed path ds (unreadStatus failure) (failure.text f.wording))) := by
  rw [fixGroup, h]
  rcases SourceFiles.readLater_error (Prod.mk.inj h).2 with ⟨missing, rfl⟩ | hfile
  · exact ⟨_, .inl rfl, rfl⟩
  · cases failure <;> simp only [Failure.isFileFailure, Bool.false_eq_true] at hfile <;>
      exact ⟨_, .inr ⟨_, rfl⟩, rfl⟩

/-- **A file that cannot be read fails all its diagnostics**, whatever the reason. -/
theorem fixGroup_of_unread {path : Text} {failure : Failure}
    (h : f.readFile w path = (w', .error failure)) (ds : List Diagnostic) :
    ∃ left, w'.Logs left ∧ f.fixGroup w path ds =
      (left, .ok (.allFailed path ds (unreadStatus failure) (failure.text f.wording))) := by
  obtain ⟨e, -, hgroup⟩ := fixGroup_reports_unread h ds
  exact ⟨_, World.logs_emit w' e, hgroup⟩

theorem fixGroup_of_read {path content : Text} (h : f.readFile w path = (w', .ok content))
    (ds : List Diagnostic) : f.fixGroup w path ds =
      ((f.fixAll (w'.emit (.sessionStarted ds.length)) (.start path content) ds).1,
        (f.fixAll (w'.emit (.sessionStarted ds.length)) (.start path content) ds).2.map
          Session.summary) := by
  rw [fixGroup, h]
  simp only
  split <;> next hall => rw [hall]; rfl

/-- Files fixed one after the other, with their summaries. -/
inductive FixedFiles (f : Fixer σ) : World σ → List (Text × List Diagnostic) → World σ →
    List FileSummary → Prop
  | done (w : World σ) : FixedFiles f w [] w []
  | next {w w₁ w' : World σ} {group : Text × List Diagnostic}
      {rest : List (Text × List Diagnostic)} {summary : FileSummary}
      {summaries : List FileSummary} : f.fixFile w group.1 group.2 = (w₁, .ok summary) →
      FixedFiles f w₁ rest w' summaries → FixedFiles f w (group :: rest) w' (summary :: summaries)

theorem fixFiles_eq_ok_iff {groups : List (Text × List Diagnostic)}
    {summaries : List FileSummary} : f.fixFiles w groups = (w', .ok summaries) ↔
      FixedFiles f w groups w' summaries := by
  constructor
  · intro h
    induction groups generalizing w summaries with
    | nil =>
      obtain ⟨rfl, hsummaries⟩ := Prod.mk.inj h
      obtain rfl := Except.ok.inj hsummaries
      exact .done w
    | cons group rest ih =>
      rcases hfile : f.fixFile w group.1 group.2 with ⟨w₁, failure | summary⟩
      · simp [fixFiles, hfile] at h
      rcases hrest : f.fixFiles w₁ rest with ⟨left, failure | found⟩
      · simp [fixFiles, hfile, hrest] at h
      simp only [fixFiles, hfile, hrest] at h
      obtain ⟨rfl, hsummaries⟩ := Prod.mk.inj h
      obtain rfl := Except.ok.inj hsummaries
      exact .next hfile (ih hrest)
  · intro h
    induction h with
    | done => rfl
    | next hfile _ ih => simp only [fixFiles, hfile, ih]

/-- The world in which a run turns to its first file. -/
def started (f : Fixer σ) (w : World σ) (ds : List Diagnostic) : World σ :=
  w.emit (.runStarting ds.length (Diagnostic.groupByFile ds).length f.service.model f.dryRun)

/-- A run is its files one after the other, and a log of that. -/
theorem run_eq (f : Fixer σ) (w : World σ) (ds : List Diagnostic) :
    (f.fixFiles (f.started w ds) (Diagnostic.groupByFile ds)).1.Logs (f.run w ds).1 ∧
    (f.run w ds).2 =
      (f.fixFiles (f.started w ds) (Diagnostic.groupByFile ds)).2.map RunSummary.mk := by
  unfold run
  simp only
  split
  · next hempty =>
    rw [List.isEmpty_iff.mp hempty]
    exact ⟨⟨rfl, rfl, rfl, rfl, rfl, rfl⟩, rfl⟩
  · split
    · next left failure hfiles =>
      rw [started, hfiles]
      exact ⟨.refl _, rfl⟩
    · next left files hfiles =>
      rw [started, hfiles]
      exact ⟨World.logs_emit _ _, rfl⟩

/-! ## 8. From one step to all -/

section Steps

variable {R : World σ → World σ → Prop} (hrefl : ∀ w, R w w)
  (htrans : ∀ {w w' w'' : World σ}, R w w' → R w' w'' → R w w'')

include hrefl htrans

/-- **What holds across each attempt holds across a row of them**, whether it is ended or not. -/
theorem fixAll_across (hstep : ∀ w s d, R w (f.fixDiagnostic w s d).1) (ds : List Diagnostic) :
    ∀ (w : World σ) (s : Session), R w (f.fixAll w s ds).1 := by
  induction ds with
  | nil => exact fun w _ => hrefl w
  | cons d rest ih =>
    intro w s
    have hfirst := hstep w s d
    rw [fixAll]
    generalize f.fixDiagnostic w s d = r at hfirst ⊢
    obtain ⟨w₁, failure | ⟨s₁, o⟩⟩ := r
    · exact hfirst
    · exact htrans hfirst (ih w₁ s₁)

/-- **What holds across the work on each file holds across a row of files.** -/
theorem fixFiles_across (hstep : ∀ w path ds, R w (f.fixFile w path ds).1)
    (groups : List (Text × List Diagnostic)) : ∀ w : World σ, R w (f.fixFiles w groups).1 := by
  induction groups with
  | nil => exact hrefl
  | cons group rest ih =>
    intro w
    have hfile := hstep w group.1 group.2
    rw [fixFiles]
    generalize f.fixFile w group.1 group.2 = r at hfile ⊢
    obtain ⟨w₁, failure | summary⟩ := r
    · exact hfile
    · have hrest := htrans hfile (ih w₁)
      dsimp only at hrest ⊢
      generalize f.fixFiles w₁ rest = r at hrest ⊢
      obtain ⟨w', failure | summaries⟩ := r <;> exact hrest

end Steps

end Fixer

end LintMend
