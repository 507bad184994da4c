/-
LintMend.Proofs.Fixing.DryRun — a dry run does what the real run does, but for the writes.

Let the paths of different files be apart and nobody else be at work. If all writes of a run
succeed, then the dry run from the same world sends the same prompts and comes to the same summary,
with every applied fix counted as one that would be applied. The two runs see different trees. What
makes them agree is that the real run, too, reads each file before anything is written to it.

  `Idle`                 — a dry run leaves the tree alone
  `runWrites`            — the results of the writes of a run
  `Mirrored`             — a real and a dry run between two attempts
  `simulates_fixAll`, `simulates_fixFile`, `simulates_fixFiles` — they stay so
  `dry_run_simulates`    — runs
-/
import LintMend.Proofs.Fixing.Locality

namespace LintMend

variable {σ : Type}

/-! ## 1. A dry run leaves the tree alone -/

namespace Fixer

variable {f : Fixer σ} {w w' v : World σ} {s : Session} {d : Diagnostic} {path : Text}
  {ds : List Diagnostic}

/-- The run without the writes. -/
def dry (f : Fixer σ) : Fixer σ :=
  { f with dryRun := true }

theorem Alone.dry (h : f.Alone w) : f.dry.Alone w :=
  ⟨h.others, h.service⟩

/-- Nobody else is at work in a later world, and its tree is as it was. -/
structure Idle (f : Fixer σ) (w w' : World σ) : Prop where
  alone : f.Alone w'
  tree : w'.tree = w.tree

namespace Idle

theorem refl (h : f.Alone w) : f.Idle w w :=
  ⟨h, rfl⟩

theorem trans {w'' : World σ} (h : f.Idle w w') (h' : f.Idle w' w'') : f.Idle w w'' :=
  ⟨h'.alone, h'.tree.trans h.tree⟩

theorem logs {w'' : World σ} (h : f.Idle w w') (hlogs : w'.Logs w'') : f.Idle w w'' :=
  ⟨h.alone.logs hlogs, hlogs.tree.trans h.tree⟩

end Idle

theorem idle_fixDiagnostic (hdry : f.dryRun = true) (h : f.Alone w) (s : Session)
    (d : Diagnostic) : f.Idle w (f.fixDiagnostic w s d).1 := by
  simp only [fixDiagnostic, World.othersAct_of_alone h.others, hdry, if_true]
  split
  · exact .refl h
  · exact (Idle.refl h).logs (World.logs_emit w _)
  · rcases hasked : f.request w s d with ⟨asked, failure | content⟩
    all_goals
      obtain ⟨halone, htree⟩ := h.asked (asked_of_request hasked)
      have hidle : f.Idle w asked := ⟨halone, htree⟩
    · split
      · next heq =>
        obtain ⟨rfl, -⟩ := Prod.mk.inj heq
        exact hidle
      · next heq =>
        obtain ⟨rfl, -⟩ := Prod.mk.inj heq
        exact hidle.logs (logs_failAnswer ..)
      · next heq => exact absurd (Prod.mk.inj heq).2 (by simp)
    · exact hidle.logs (World.logs_emit ..)

theorem idle_fixAll (hdry : f.dryRun = true) (ds : List Diagnostic) (h : f.Alone w)
    (s : Session) : f.Idle w (f.fixAll w s ds).1 :=
  fixAll_across (R := fun w w' => f.Alone w → f.Idle w w') (fun _ => .refl)
    (fun hw hw' h => (hw h).trans (hw' (hw h).alone))
    (fun _ s d h => idle_fixDiagnostic hdry h s d) ds w s h

theorem idle_fixFile (hdry : f.dryRun = true) (h : f.Alone w) (path : Text)
    (ds : List Diagnostic) : f.Idle w (f.fixFile w path ds).1 := by
  cases hread : f.files.read w.tree path with
  | error failure =>
    obtain ⟨left, hfile, hlogs⟩ := fixFile_of_unread h.others hread ds
    rw [hfile]
    exact (Idle.refl h).logs hlogs
  | ok content =>
    have hopened := (Idle.refl h).logs (logs_opened (f := f) h.others path ds)
    exact (hopened.trans (idle_fixAll hdry ds hopened.alone _)).logs
      (fixFile_attempts h.others hread ds).1

theorem idle_fixFiles (hdry : f.dryRun = true) (groups : List (Text × List Diagnostic))
    (h : f.Alone w) : f.Idle w (f.fixFiles w groups).1 :=
  fixFiles_across (R := fun w w' => f.Alone w → f.Idle w w') (fun _ => .refl)
    (fun hw hw' h => (hw h).trans (hw' (hw h).alone))
    (fun _ path ds h => idle_fixFile hdry h path ds) groups w h

/-- **A dry run leaves the tree as it was**, whatever comes of it. -/
theorem idle_run (hdry : f.dryRun = true) (h : f.Alone w) (ds : List Diagnostic) :
    f.Idle w (f.run w ds).1 := by
  have hstarted := (Idle.refl h).logs (logs_started f w ds)
  exact (hstarted.trans (idle_fixFiles hdry (Diagnostic.groupByFile ds) hstarted.alone)).logs
    (run_eq f w ds).1

end Fixer

/-! ## 2. What a dry run reports -/

/-- What a dry run calls a status. -/
def Status.simulated : Status → Status
  | .applied => .wouldApply
  | status => status

/-- An outcome in a dry run. -/
def Outcome.simulated (o : Outcome) : Outcome :=
  { o with status := o.status.simulated }

/-- A session in a dry run. -/
def Session.simulated (s : Session) : Session :=
  { s with applied := 0, wouldApply := s.applied, outcomes := s.outcomes.map Outcome.simulated }

/-- The summary of a file in a dry run. -/
def FileSummary.simulated (summary : FileSummary) : FileSummary :=
  { summary with
    applied := 0, wouldApply := summary.applied
    outcomes := summary.outcomes.map Outcome.simulated }

/-- The summary of a dry run. -/
def RunSummary.simulated (r : RunSummary) : RunSummary :=
  ⟨r.files.map FileSummary.simulated⟩

theorem Session.simulated_recordFailure (s : Session) (o : Outcome) :
    (s.recordFailure o).simulated = s.simulated.recordFailure o.simulated := by
  simp [recordFailure, simulated]

theorem Session.simulated_recordSuccess (s : Session) {o : Outcome} (ho : o.status = .applied)
    (content : Text) :
    (s.recordSuccess o content).simulated = s.simulated.recordSuccess o.simulated content := by
  simp [recordSuccess, simulated, Outcome.simulated, ho, Status.simulated]

theorem Session.simulated_summary (s : Session) : s.simulated.summary = s.summary.simulated := by
  simp [summary, simulated, FileSummary.simulated]

theorem FileSummary.simulated_allFailed (path : Text) (ds : List Diagnostic) {status : Status}
    (hstatus : status.simulated = status) (error : Text) :
    (allFailed path ds status error).simulated = allFailed path ds status error := by
  simp [allFailed, simulated, Outcome.simulated, hstatus, Function.comp_def]

namespace Fixer

variable {f : Fixer σ} {w w' v v' : World σ} {s u : Session} {d : Diagnostic} {path : Text}
  {ds : List Diagnostic}

/-! ## 3. The writes of a run -/

/-- The results of the writes of an attempt in a real run: of one if a fix came, else of none. -/
def attemptWrites (f : Fixer σ) (w : World σ) (s : Session) (d : Diagnostic) :
    List (Except Failure Unit) :=
  match f.files.isThere w.othersAct.tree s.path, f.request w.othersAct s d with
  | .ok true, (w, .ok content) => [(f.writeContent w s.path content).2]
  | _, _ => []

/-- The results of the writes of a row of attempts. -/
def rowWrites (f : Fixer σ) (w : World σ) (s : Session) :
    List Diagnostic → List (Except Failure Unit)
  | [] => []
  | d :: rest =>
    f.attemptWrites w s d ++
      match f.fixDiagnostic w s d with
      | (w, .ok (s, _)) => f.rowWrites w s rest
      | (_, .error _) => []

/-- The results of the writes to one file. -/
def fileWrites (f : Fixer σ) (w : World σ) (path : Text) (ds : List Diagnostic) :
    List (Except Failure Unit) :=
  match f.readFile (w.bind "file" (.text path)) path with
  | (w, .ok content) => f.rowWrites (w.emit (.sessionStarted ds.length)) (.start path content) ds
  | (_, .error _) => []

/-- The results of the writes to several files. -/
def filesWrites (f : Fixer σ) (w : World σ) :
    List (Text × List Diagnostic) → List (Except Failure Unit)
  | [] => []
  | (path, group) :: rest =>
    f.fileWrites w path group ++
      match f.fixFile w path group with
      | (w, .ok _) => f.filesWrites w rest
      | (_, .error _) => []

/-- The results of all writes of a run. -/
def runWrites (f : Fixer σ) (w : World σ) (ds : List Diagnostic) : List (Except Failure Unit) :=
  f.filesWrites (f.started w ds) (Diagnostic.groupByFile ds)

/-! ## 4. Side by side -/

/-- The world of a real run and the one of its dry run: nobody else is at work in either, the
service is in the same state, and the same prompts have been sent. -/
structure Mirrored (f : Fixer σ) (w v : World σ) : Prop where
  real : f.Alone w
  dry : f.dry.Alone v
  service : v.service = w.service
  prompts : v.prompts = w.prompts

namespace Mirrored

theorem logs (h : f.Mirrored w v) (hw : w.Logs w') (hv : v.Logs v') : f.Mirrored w' v' :=
  ⟨h.real.logs hw, h.dry.logs hv, hv.service.trans (h.service.trans hw.service.symm),
    hv.prompts.trans (h.prompts.trans hw.prompts.symm)⟩

/-- The same request brings the same result. -/
theorem request (h : f.Mirrored w v) (hcurrent : u.current = s.current)
    {result : Except Failure Text} (hw : f.request w s d = (w', result)) :
    ∃ v', f.dry.request v u d = (v', result) ∧ f.Mirrored w' v' := by
  rcases hv : f.dry.request v u d with ⟨v', result'⟩
  have asked := asked_of_request hw
  have asked' := asked_of_request hv
  have hanswer : f.dry.service.answer v.service (Prompt.text d u.current) =
      f.service.answer w.service (Prompt.text d s.current) := by
    rw [h.service, hcurrent]
    rfl
  refine ⟨v', Prod.ext rfl ?_, (h.real.asked asked).1, (h.dry.asked asked').1, ?_, ?_⟩
  · rw [asked.result, asked'.result, hanswer]
  · rw [asked.service, asked'.service, hanswer]
  · rw [asked.prompts, asked'.prompts, h.prompts, hcurrent]

/-- A write goes by unseen. -/
theorem wrote (h : f.Mirrored w v) {content : Text} {result : Except Failure Unit}
    (hwrote : Wrote f w path content w' result) : f.Mirrored w' v :=
  ⟨h.real.wrote hwrote, h.dry, h.service.trans hwrote.service.symm,
    h.prompts.trans hwrote.prompts.symm⟩

end Mirrored

/-- A result of a real run, and the one of the dry run, in worlds side by side. -/
structure Simulates (f : Fixer σ) {α : Type} (simulated : α → α)
    (real dry : World σ × Except Failure α) : Prop where
  worlds : f.Mirrored real.1 dry.1
  result : dry.2 = real.2.map simulated

theorem simulated_failAnswer (f : Fixer σ) (w v : World σ) (s : Session) (d : Diagnostic)
    (failure : Failure) : (f.failAnswer v s.simulated d failure).2 =
      ((f.failAnswer w s d failure).2.1.simulated, (f.failAnswer w s d failure).2.2.simulated) := by
  have hstatus : (statusOf failure).simulated = statusOf failure := by cases failure <;> rfl
  simp [failAnswer, fail, Session.simulated_recordFailure, Outcome.simulated, hstatus]

/-- **A dry attempt simulates the real one** if the write of the real one succeeds. -/
theorem simulates_fixDiagnostic (hreal : f.dryRun = false) (h : f.Mirrored w v)
    (hthere : f.Present w s) (hthere' : f.dry.Present v s.simulated)
    (hwrites : ∀ result ∈ f.attemptWrites w s d, result = .ok ()) :
    f.Simulates (fun r => (r.1.simulated, r.2.simulated)) (f.fixDiagnostic w s d)
      (f.dry.fixDiagnostic v s.simulated d) := by
  have hlook : f.files.isThere w.othersAct.tree s.path = .ok true := by
    rw [World.othersAct_of_alone h.real.others]
    exact hthere.isThere
  have hlook' : f.dry.files.isThere v.othersAct.tree s.simulated.path = .ok true := by
    rw [World.othersAct_of_alone h.dry.others]
    exact hthere'.isThere
  rcases hasked : f.request w.othersAct s d with ⟨asked, result⟩
  obtain ⟨asked', hasked', hmirrored⟩ : ∃ asked',
      f.dry.request v.othersAct s.simulated d = (asked', result) ∧ f.Mirrored asked asked' := by
    rw [World.othersAct_of_alone h.real.others] at hasked
    rw [World.othersAct_of_alone h.dry.others]
    exact h.request rfl hasked
  cases result with
  | error failure =>
    by_cases hgo : failure = .interrupted
    · subst hgo
      have hstop : f.fixDiagnostic w s d = (asked, .error .interrupted) := by
        simp only [fixDiagnostic, hlook, hasked]
      have hstop' : f.dry.fixDiagnostic v s.simulated d = (asked', .error .interrupted) := by
        simp only [fixDiagnostic, hlook', hasked']
      rw [hstop, hstop']
      exact ⟨hmirrored, rfl⟩
    · have hfix := (Attempted.refused hlook hasked hgo).fixDiagnostic_eq
      have hfix' := (Attempted.refused hlook' hasked' hgo).fixDiagnostic_eq
      rw [hfix, hfix']
      exact ⟨hmirrored.logs (logs_failAnswer ..) (logs_failAnswer ..),
        congrArg Except.ok (simulated_failAnswer f asked asked' s d failure)⟩
  | ok content =>
    rcases hleft : f.writeContent asked s.path content with ⟨left, result⟩
    obtain rfl : result = .ok () := by
      refine hwrites result ?_
      simp only [attemptWrites, hlook, hasked, hleft, List.mem_singleton]
    have hfix := (Attempted.written hlook hasked hreal hleft).fixDiagnostic_eq
    have hfix' := (Attempted.simulated hlook' hasked' rfl).fixDiagnostic_eq
    rw [hfix, hfix']
    refine ⟨(hmirrored.wrote (wrote_of_writeContent hleft)).logs (World.logs_emit ..)
      (World.logs_emit ..), congrArg Except.ok ?_⟩
    have hnext := Session.simulated_recordSuccess s (o := ⟨d, .applied, none⟩) rfl content
    exact Prod.ext hnext.symm rfl

/-- **A row of dry attempts simulates the real ones.** -/
theorem simulates_fixAll (hreal : f.dryRun = false) (ds : List Diagnostic)
    (h : f.Mirrored w v) (hthere : f.Present w s) (hthere' : f.dry.Present v s.simulated)
    (hwrites : ∀ result ∈ f.rowWrites w s ds, result = .ok ()) :
    f.Simulates Session.simulated (f.fixAll w s ds) (f.dry.fixAll v s.simulated ds) := by
  induction ds generalizing w v s with
  | nil => exact ⟨h, rfl⟩
  | cons d rest ih =>
    rw [rowWrites, List.forall_mem_append] at hwrites
    obtain ⟨hworlds, hresult⟩ := simulates_fixDiagnostic hreal h hthere hthere' hwrites.1
    rw [fixAll, fixAll]
    rcases hd : f.fixDiagnostic w s d with ⟨w₁, failure | ⟨s₁, o⟩⟩
    all_goals
      rcases hd' : f.dry.fixDiagnostic v s.simulated d with ⟨v₁, result⟩
      rw [hd, hd'] at hworlds hresult
      obtain rfl := hresult
    · exact ⟨hworlds, rfl⟩
    · rw [hd] at hwrites
      exact ih hworlds (hthere.step (fixDiagnostic_eq_ok_iff.mp hd)).1
        (hthere'.step (fixDiagnostic_eq_ok_iff.mp hd')).1 hwrites.2

/-- The writes of the work on a file that is read are those of its row of attempts. -/
theorem fileWrites_of_read (hothers : w.others = []) {content : Text}
    (hread : f.files.read w.tree path = .ok content) (ds : List Diagnostic) :
    f.fileWrites w path ds = f.rowWrites (f.opened w path ds) (.start path content) ds := by
  have hbound : (w.bind "file" (.text path)).others = [] := hothers
  rw [fileWrites, opened, readFile_of_alone (f := f) hbound path]
  simp only [World.bind, hread]

/-- **The dry work on a file simulates the real one** if both find the same file. -/
theorem simulates_fixFile (hreal : f.dryRun = false) (h : f.Mirrored w v)
    (hsame : f.files.read v.tree path = f.files.read w.tree path)
    (hwrites : ∀ result ∈ f.fileWrites w path ds, result = .ok ()) :
    f.Simulates FileSummary.simulated (f.fixFile w path ds) (f.dry.fixFile v path ds) := by
  cases hread : f.files.read w.tree path with
  | error failure =>
    obtain ⟨left, hfile, hlogs⟩ := fixFile_of_unread h.real.others hread ds
    obtain ⟨left', hfile', hlogs'⟩ :=
      fixFile_of_unread (f := f.dry) h.dry.others (hsame.trans hread) ds
    rw [hfile, hfile']
    have hstatus : (unreadStatus failure).simulated = unreadStatus failure := by
      cases failure <;> rfl
    exact ⟨h.logs hlogs hlogs',
      congrArg Except.ok (FileSummary.simulated_allFailed _ _ hstatus _).symm⟩
  | ok content =>
    have hopened := logs_opened (f := f) h.real.others path ds
    have hopened' := logs_opened (f := f.dry) h.dry.others path ds
    obtain ⟨hlogs, hresult⟩ := fixFile_attempts (f := f) h.real.others hread ds
    obtain ⟨hlogs', hresult'⟩ :=
      fixFile_attempts (f := f.dry) h.dry.others (hsame.trans hread) ds
    rw [fileWrites_of_read h.real.others hread] at hwrites
    have hall := simulates_fixAll hreal ds (h.logs hopened hopened')
      (present_opened h.real hread ds) (present_opened h.dry (hsame.trans hread) ds) hwrites
    have hsessions : (f.dry.fixAll (f.dry.opened v path ds) (.start path content) ds).2 =
        (f.fixAll (f.opened w path ds) (.start path content) ds).2.map Session.simulated :=
      hall.result
    refine ⟨hall.worlds.logs hlogs hlogs', ?_⟩
    rw [hresult, hresult', hsessions]
    generalize (f.fixAll (f.opened w path ds) (.start path content) ds).2 = sessions
    cases sessions with
    | error failure => rfl
    | ok s => exact congrArg Except.ok s.simulated_summary

/-- **A dry run over files simulates the real one** if the paths are apart and the dry run finds the
files as the real one does. -/
theorem simulates_fixFiles (hreal : f.dryRun = false) {groups : List (Text × List Diagnostic)}
    (h : f.Mirrored w v) (hapart : f.AllApart w.tree groups)
    (hsame : ∀ group ∈ groups, f.files.read v.tree group.1 = f.files.read w.tree group.1)
    (hwrites : ∀ result ∈ f.filesWrites w groups, result = .ok ()) :
    f.Simulates (List.map FileSummary.simulated) (f.fixFiles w groups)
      (f.dry.fixFiles v groups) := by
  induction groups generalizing w v with
  | nil => exact ⟨h, rfl⟩
  | cons group rest ih =>
    obtain ⟨path, ds⟩ := group
    rw [filesWrites, List.forall_mem_append] at hwrites
    obtain ⟨hhead, hrest⟩ := List.forall_mem_cons.mp hsame
    obtain ⟨hworlds, hresult⟩ := simulates_fixFile hreal h hhead hwrites.1
    have hidle := idle_fixFile (f := f.dry) rfl h.dry path ds
    rw [fixFiles, fixFiles]
    rcases hfile : f.fixFile w path ds with ⟨w₁, failure | summary⟩
    all_goals
      rcases hfile' : f.dry.fixFile v path ds with ⟨v₁, result⟩
      rw [hfile, hfile'] at hworlds hresult
      obtain rfl := hresult
    · exact ⟨hworlds, rfl⟩
    · rw [hfile] at hwrites
      rw [hfile'] at hidle
      have htouched := ((fixFile_fixed h.real hfile).touched h.real).2
      obtain ⟨hapart₁, -⟩ := List.pairwise_cons.mp hapart
      obtain ⟨hworlds', hresult'⟩ := ih hworlds (hapart.tail htouched) (fun g hg => by
        rw [hidle.tree, hrest g hg]
        exact (htouched.read (hapart₁ g hg)).symm) hwrites.2
      simp only [Except.map]
      generalize f.fixFiles w₁ rest = real at hworlds' hresult' ⊢
      generalize f.dry.fixFiles v₁ rest = dry at hworlds' hresult' ⊢
      obtain ⟨w', summaries⟩ := real
      obtain ⟨v', summaries'⟩ := dry
      obtain rfl := hresult'
      cases summaries <;> exact ⟨hworlds', rfl⟩

/-! ## 5. Runs -/

/-- **A dry run simulates the real run.** Let nobody else be at work and the paths of different files
be apart. If all writes of the run succeed, the dry run from the same world sends the same prompts
and ends in the same way, with the summary in which every applied fix would be applied; both return
unless the operator stops them. Whatever comes of a dry run, it leaves the tree as it was. -/
theorem dry_run_simulates (f : Fixer σ) :
    (∀ w ds, f.dryRun = false → f.Alone w →
      (∀ p ∈ Diagnostic.files ds, ∀ q ∈ Diagnostic.files ds, p ≠ q →
        w.tree.Apart (f.files.resolve p) (f.files.resolve q)) →
      (∀ result ∈ f.runWrites w ds, result = .ok ()) →
      (f.dry.run w ds).1.prompts = (f.run w ds).1.prompts ∧
      (f.dry.run w ds).2 = (f.run w ds).2.map RunSummary.simulated ∧
      (f.Uninterrupted w → ∃ r, (f.run w ds).2 = .ok r ∧ (f.dry.run w ds).2 = .ok r.simulated)) ∧
    ∀ w ds, f.Alone w → (f.dry.run w ds).1.tree = w.tree := by
  refine ⟨fun w ds hreal halone hapart hwrites => ?_, fun w ds halone => ?_⟩
  · have hstarted := logs_started f w ds
    have hstarted' := logs_started f.dry w ds
    have hworlds : f.Mirrored (f.started w ds) (f.dry.started w ds) :=
      ⟨halone.logs hstarted, halone.dry.logs hstarted', rfl, rfl⟩
    obtain ⟨hworlds', hresult⟩ := simulates_fixFiles hreal hworlds
      (allApart_groupByFile hapart) (fun _ _ => rfl) hwrites
    obtain ⟨hlogs, hrun⟩ := run_eq f w ds
    obtain ⟨hlogs', hrun'⟩ := run_eq f.dry w ds
    have hsimulated : (f.dry.run w ds).2 = (f.run w ds).2.map RunSummary.simulated := by
      rw [hrun, hrun', hresult]
      generalize (f.fixFiles (f.started w ds) (Diagnostic.groupByFile ds)).2 = files
      cases files <;> rfl
    refine ⟨?_, hsimulated, fun hgo => ?_⟩
    · rw [hlogs.prompts, hlogs'.prompts, hworlds'.prompts]
    · obtain ⟨w', r, hrun⟩ := run_returns hgo halone ds
      rw [hrun] at hsimulated ⊢
      exact ⟨r, rfl, hsimulated⟩
  · exact (idle_run (f := f.dry) rfl halone.dry ds).tree

/-! ## 6. Two letters -/

/-- A world with two files and a reply for each. -/
def pairWorld : World (List Reply) :=
  { tree := ⟨[], [(["A"], .file [0x61] 0o644), (["B"], .file [0x61] 0o644)]⟩
    service := List.replicate 2 { result := .ok (.object [("response", .string "b")]) } }

/-- A finding in each of them. -/
def pairFindings : List Diagnostic :=
  [sampleFinding, { sampleFinding with file := "B" }]

theorem apart_pair : ∀ p ∈ Diagnostic.files pairFindings, ∀ q ∈ Diagnostic.files pairFindings,
    p ≠ q → pairWorld.tree.Apart (sampleFixer.files.resolve p) (sampleFixer.files.resolve q) := by
  have hfound : ∀ p ∈ Diagnostic.files pairFindings, pairWorld.tree.lookup true
      (sampleFixer.files.resolve p) = .ok (.found [p] (.file [0x61] 0o644)) := by
    simp only [Diagnostic.mem_files, pairFindings, List.mem_cons, List.not_mem_nil, or_false,
      exists_eq_or_imp, exists_eq_left]
    rintro p (rfl | rfl) <;> cbv
  intro p hp q hq hne
  exact FileTree.apart_of_found (hfound p hp) (hfound q hq) (by simpa using hne)

theorem alone_pair : sampleFixer.Alone pairWorld := by
  refine ⟨rfl, Service.always_ofScript fun rest hrest prompt t => ?_⟩
  cases rest with
  | nil => rfl
  | cons reply rest =>
    obtain rfl := List.eq_of_mem_replicate (hrest.subset (List.mem_cons_self ..))
    rfl

set_option maxRecDepth 8000 in
theorem writes_pair : sampleFixer.runWrites pairWorld pairFindings = [.ok (), .ok ()] := by
  cbv

/-- Both files are fixed, and the dry run says so beforehand. -/
theorem dry_run_simulates_pair :
    (∀ result ∈ sampleFixer.runWrites pairWorld pairFindings, result = .ok ()) ∧
    (sampleFixer.dry.run pairWorld pairFindings).1.prompts =
      (sampleFixer.run pairWorld pairFindings).1.prompts ∧
    (sampleFixer.dry.run pairWorld pairFindings).1.tree = pairWorld.tree := by
  have hwrites : ∀ result ∈ sampleFixer.runWrites pairWorld pairFindings, result = .ok () := by
    simp [writes_pair]
  obtain ⟨hsimulates, hidle⟩ := dry_run_simulates sampleFixer
  obtain ⟨hprompts, -, -⟩ :=
    hsimulates pairWorld pairFindings rfl alone_pair apart_pair hwrites
  exact ⟨hwrites, hprompts, hidle pairWorld pairFindings alone_pair⟩

end Fixer

end LintMend
