/-
LintMend.Proofs.CommandLine.ExitCode — what an invocation answers, and what it leaves alone.

An invocation goes through stages: it loads the configuration, looks after the service's health if
that is asked for, gets the output of the build, and in order to fix what it finds there, waits
until the service is ready if that is asked for. A stage that fails ends it with the exit code 1.
How the fixing goes has no say in the exit code. Up to the fixing, the service is only asked, and of
the files only those of the log are touched.

  `Stage`, `Arguments.Fails` — the stages, and when one fails
  `Fails.unique`             — at most one does
  `Ends`, `ends_course`      — the ways in which an invocation ends, and that there are no others
  `invoke_exits`             — exit code, requests and files of an invocation
-/
import Mathlib
import LintMend.Proofs.CommandLine.Logging

namespace LintMend

open FileTree

/-! ## 1. Stages -/

/-- What may fail before anything is fixed. -/
inductive Stage where
  | configuration
  | health
  | output
  | readiness
  deriving DecidableEq, Repr

namespace Arguments

/-- The settings of an invocation. -/
def settings (a : Arguments) (around : Surroundings) : Except Failure Settings :=
  (Settings.load around.tree around.environment a.configuration).map (·.within a.directory)

/-- The log file of an invocation, if it has one. -/
def logFile (a : Arguments) (around : Surroundings) : Option FilePath :=
  match a.settings around with
  | .ok s => s.log.file.wanted
  | .error _ => none

/-- The output of the build, which is read or made when the log is open. -/
def buildOutput (a : Arguments) (around : Surroundings) (s : Settings) : Except Failure Text :=
  let tree := s.log.file.opened around.tree
  match a.input with
  | some source => readOutput tree around.input source
  | none => (s.buildCommand.run tree around.programs).2.2.map (·.output)

/-- An invocation comes to fix diagnostics, and these are the ones that it has found. -/
structure Finds (a : Arguments) (around : Surroundings) (s : Settings) (ds : List Diagnostic) :
    Prop where
  settings : a.settings around = .ok s
  noHealthCheck : a.healthCheck = false
  noCheck : a.check = false
  extracted : ∃ output, a.buildOutput around s = .ok output ∧
    (s.extractor.extract output).2 = .ok ds

/-- A stage is reached and fails. -/
inductive Fails (a : Arguments) (around : Surroundings) : Stage → Prop
  | configuration {failure : Failure} : a.settings around = .error failure →
      Fails a around .configuration
  | health {s : Settings} {c : ServiceClient} {report : HealthReport} :
      a.settings around = .ok s → ServiceClient.ofSettings s.service = .ok c →
      a.healthCheck = true →
      (HealthReport.run c around.clock 0.0 around.link).2 = .ok report →
      report.healthy = false → Fails a around .health
  | output {s : Settings} {failure : Failure} : a.settings around = .ok s →
      a.healthCheck = false → a.buildOutput around s = .error failure → Fails a around .output
  | readiness {s : Settings} {c : ServiceClient} {ds : List Diagnostic} {failure : Failure} :
      a.Finds around s ds → ds ≠ [] → 0 < a.attempts →
      ServiceClient.ofSettings s.service = .ok c →
      (c.waitUntilReady around.link a.attempts).2 = .error failure → Fails a around .readiness

/-- The work of an invocation before it begins. -/
def start (a : Arguments) (around : Surroundings) : Work :=
  let format := a.format.getD .console
  { log := { tree := around.tree }
    journal := { level := Work.levelFor a.debug .info, format, time := around.time }
    ownFormat := format
    link := around.link }

/-- The course of an invocation. -/
def course (a : Arguments) (around : Surroundings) : Step :=
  (a.start around).run a around

section

variable {a : Arguments} {around : Surroundings} {s s' : Settings} {ds ds' : List Diagnostic}
  {output : Text}

theorem Finds.unique (h : a.Finds around s ds) (h' : a.Finds around s' ds') :
    s = s' ∧ ds = ds' := by
  obtain rfl := Except.ok.inj (h.settings.symm.trans h'.settings)
  obtain ⟨output, houtput, hds⟩ := h.extracted
  obtain ⟨output', houtput', hds'⟩ := h'.extracted
  obtain rfl := Except.ok.inj (houtput.symm.trans houtput')
  exact ⟨rfl, Except.ok.inj (hds.symm.trans hds')⟩

/-- With something to fix, neither a check alone nor a question for the health was asked for. -/
theorem Finds.not_quiet (h : a.Finds around s ds) (hne : ds ≠ []) :
    ¬ (a.check = true ∨ a.healthCheck = true ∨ ∀ s ds, a.Finds around s ds → ds = []) := by
  rintro (hcheck | hasked | hnothing)
  · have hfix := h.noCheck
    simp [hcheck] at hfix
  · have hno := h.noHealthCheck
    simp [hasked] at hno
  · exact hne (hnothing s ds h)

theorem logFile_of_settings (hs : a.settings around = .ok s) :
    a.logFile around = s.log.file.wanted := by
  simp only [logFile, hs]

/-! ## 2. What excludes a failure -/

theorem not_fails_of_healthy {c : ServiceClient} {report : HealthReport}
    (hs : a.settings around = .ok s) (hc : ServiceClient.ofSettings s.service = .ok c)
    (hasked : a.healthCheck = true)
    (hrun : (HealthReport.run c around.clock 0.0 around.link).2 = .ok report)
    (hhealthy : report.healthy = true) (stage : Stage) : ¬ a.Fails around stage := by
  intro h
  cases h with
  | configuration hload => simp [hs] at hload
  | health hs' hc' _ hrun' hill =>
    obtain rfl := Except.ok.inj (hs.symm.trans hs')
    obtain rfl := Except.ok.inj (hc.symm.trans hc')
    obtain rfl := Except.ok.inj (hrun.symm.trans hrun')
    simp [hhealthy] at hill
  | output _ hno => simp [hasked] at hno
  | readiness hfinds =>
    have hno := hfinds.noHealthCheck
    simp [hasked] at hno

/-- With the output of the build at hand, only the readiness of the service is left to fail. -/
theorem Fails.eq_readiness {stage : Stage} (h : a.Fails around stage)
    (hs : a.settings around = .ok s) (hno : a.healthCheck = false)
    (houtput : a.buildOutput around s = .ok output) : stage = .readiness := by
  cases h with
  | configuration hload => simp [hs] at hload
  | health _ _ hasked => simp [hno] at hasked
  | output hs' _ hfail =>
    obtain rfl := Except.ok.inj (hs.symm.trans hs')
    simp [houtput] at hfail
  | readiness => rfl

/-- **At most one stage fails**, since each is reached only if those before it succeed. -/
theorem Fails.unique {stage stage' : Stage} (h : a.Fails around stage)
    (h' : a.Fails around stage') : stage = stage' := by
  cases h with
  | configuration hload =>
    cases h' with
    | configuration => rfl
    | health hs | output hs => simp [hload] at hs
    | readiness hfinds =>
      have hs := hfinds.settings
      simp [hload] at hs
  | health hs _ hasked =>
    cases h' with
    | configuration hload => simp [hs] at hload
    | health => rfl
    | output _ hno => simp [hasked] at hno
    | readiness hfinds =>
      have hno := hfinds.noHealthCheck
      simp [hasked] at hno
  | output hs hno hfail =>
    cases h' with
    | configuration hload => simp [hs] at hload
    | health _ _ hasked => simp [hno] at hasked
    | output => rfl
    | readiness hfinds =>
      obtain rfl := Except.ok.inj (hs.symm.trans hfinds.settings)
      obtain ⟨output, houtput, -⟩ := hfinds.extracted
      simp [houtput] at hfail
  | readiness hfinds =>
    obtain ⟨output, houtput, -⟩ := hfinds.extracted
    exact (h'.eq_readiness hfinds.settings hfinds.noHealthCheck houtput).symm

/-- Nothing fails in an invocation that only reports. -/
theorem not_fails_of_check (hs : a.settings around = .ok s) (hno : a.healthCheck = false)
    (houtput : a.buildOutput around s = .ok output) (hcheck : a.check = true) (stage : Stage) :
    ¬ a.Fails around stage := by
  intro h
  obtain rfl := h.eq_readiness hs hno houtput
  cases h with
  | readiness hfinds =>
    have hfix := hfinds.noCheck
    simp [hcheck] at hfix

/-- Nothing fails in an invocation that finds nothing, that need not wait, or that has waited. -/
theorem not_fails_of_finds (hfinds : a.Finds around s ds)
    (hready : ds = [] ∨ a.attempts ≤ 0 ∨ ∃ c version,
      ServiceClient.ofSettings s.service = .ok c ∧
        (c.waitUntilReady around.link a.attempts).2 = .ok version) (stage : Stage) :
    ¬ a.Fails around stage := by
  intro h
  obtain ⟨output, houtput, -⟩ := hfinds.extracted
  obtain rfl := h.eq_readiness hfinds.settings hfinds.noHealthCheck houtput
  cases h with
  | readiness hfinds' hne hasked hc' hwait =>
    obtain ⟨rfl, rfl⟩ := hfinds.unique hfinds'
    rcases hready with hnil | hnever | ⟨c, version, hc, hready⟩
    · exact hne hnil
    · exact absurd hasked (Int.not_lt.mpr hnever)
    · obtain rfl := Except.ok.inj (hc.symm.trans hc')
      exact absurd (hready.symm.trans hwait) (by simp)

end

end Arguments

/-! ## 3. Endings -/

/-- Work of an invocation that logged and asked, and did nothing else. -/
abbrev Arguments.Modest (a : Arguments) (around : Surroundings) (w : Work) : Prop :=
  w.Modest (a.logFile around) around.tree around.link

/-- The ways in which an invocation ends. -/
inductive Ends (a : Arguments) (around : Surroundings) : Step → Prop
  | failed {w : Work} {stage : Stage} : a.Fails around stage → a.Modest around w →
      Ends a around (w, .ok 1)
  | done {w : Work} : (∀ stage, ¬ a.Fails around stage) → a.Modest around w →
      Ends a around (w, .ok 0)
  | stopped {w : Work} (failure : Failure) : a.Modest around w →
      Ends a around (w, .error failure)
  /-- It comes to fix what it has found, however that goes. -/
  | fixed {step : Step} {s : Settings} {ds : List Diagnostic} : a.Finds around s ds → ds ≠ [] →
      (∀ stage, ¬ a.Fails around stage) → (∀ code, step.2 = .ok code → code = 0) →
      Ends a around step

namespace Work

variable {a : Arguments} {around : Surroundings} {s : Settings} {c : ServiceClient}
  {ds : List Diagnostic} {output : Text} {w : Work}

theorem ends_checkHealth (hs : a.settings around = .ok s)
    (hc : ServiceClient.ofSettings s.service = .ok c) (hasked : a.healthCheck = true)
    (hw : a.Modest around w) (hlink : w.link = around.link) :
    Ends a around (w.checkHealth c around.clock) := by
  have hasks := HealthReport.asksOnly_health c around.clock 0.0 w.link
  unfold checkHealth
  split
  · next l failure hrun => exact .stopped failure (hw.relink (hasks.of_step hrun))
  · next l report hrun =>
    have hw' := hw.relink (hasks.of_step hrun)
    have hreport : (HealthReport.run c around.clock 0.0 around.link).2 = .ok report := by
      rw [← hlink, hrun]
    simp only
    split
    · next hhealthy =>
      exact .done (Arguments.not_fails_of_healthy hs hc hasked hreport hhealthy) (hw'.tell _)
    · next hill =>
      exact .failed (.health hs hc hasked hreport (by simpa using hill)) (hw'.tell _)

/-- Getting the output of the build only logs. -/
theorem modest_obtainOutput {result : Except Failure Text} {w' : Work} (hw : a.Modest around w)
    (htree : w.log.tree = s.log.file.opened around.tree)
    (h : w.obtainOutput s around.programs around.input a.input = (w', result)) :
    result = a.buildOutput around s ∧ a.Modest around w' ∧ w'.link = w.link := by
  unfold obtainOutput at h
  unfold Arguments.buildOutput
  cases hinput : a.input with
  | some source =>
    simp only [hinput] at h
    obtain ⟨rfl, rfl⟩ := Prod.mk.inj h
    exact ⟨by rw [htree], hw, rfl⟩
  | none =>
    simp only [hinput] at h
    obtain ⟨rfl, rfl⟩ := Prod.mk.inj h
    exact ⟨by rw [htree], (hw.relayEvents _).of_same rfl rfl rfl, rfl⟩

theorem ends_reportFindings (hs : a.settings around = .ok s) (hno : a.healthCheck = false)
    (houtput : a.buildOutput around s = .ok output) (hcheck : a.check = true)
    (hw : a.Modest around w) : Ends a around (w.reportFindings s a.showContext output) := by
  unfold reportFindings
  simp only
  split
  · exact .done (Arguments.not_fails_of_check hs hno houtput hcheck)
      ((hw.relayEvents _).of_same rfl rfl rfl)
  · exact .stopped _ ((hw.relayEvents _).of_same rfl rfl rfl)

/-- The exit code of fixing is 0, if there is one. -/
theorem code_of_fix {code : Nat} (h : (w.fix s c a.dryRun ds).2 = .ok code) : code = 0 := by
  unfold fix at h
  simp only at h
  split at h
  · exact absurd h (by simp [fail])
  · exact (Except.ok.inj h).symm

theorem ends_fixWhenReady (hfinds : a.Finds around s ds) (hne : ds ≠ [])
    (hc : ServiceClient.ofSettings s.service = .ok c) (hw : a.Modest around w)
    (hlink : w.link = around.link) : Ends a around (w.fixWhenReady s c a ds) := by
  have hasks := c.asksOnly_waitUntilReady w.link a.attempts
  unfold fixWhenReady
  split
  · next hnever =>
    exact .fixed hfinds hne (Arguments.not_fails_of_finds hfinds (.inr (.inl hnever)))
      fun _ => code_of_fix
  next hoften =>
  split
  · next l version hwait =>
    have hready : (c.waitUntilReady around.link a.attempts).2 = .ok version := by
      rw [← hlink, hwait]
    exact .fixed hfinds hne
      (Arguments.not_fails_of_finds hfinds (.inr (.inr ⟨c, version, hc, hready⟩)))
      fun _ => code_of_fix
  · next l failure hwait =>
    have hfail : (c.waitUntilReady around.link a.attempts).2 = .error failure := by
      rw [← hlink, hwait]
    have hw' := hw.relink (hasks.of_step hwait)
    simp only
    split
    · exact .failed (.readiness hfinds hne (Int.not_le.mp hoften) hc hfail) (hw'.tell _)
    · exact .stopped failure hw'

theorem ends_mend (hs : a.settings around = .ok s) (hno : a.healthCheck = false)
    (hnocheck : a.check = false) (houtput : a.buildOutput around s = .ok output)
    (hc : ServiceClient.ofSettings s.service = .ok c) (hw : a.Modest around w)
    (hlink : w.link = around.link) : Ends a around (w.mend s c a output) := by
  have hfinds : ∀ {ds}, (s.extractor.extract output).2 = .ok ds → a.Finds around s ds :=
    fun hds => ⟨hs, hno, hnocheck, output, houtput, hds⟩
  unfold mend
  split
  · exact .stopped _ (hw.relayEvents _)
  · next hnone =>
    exact .done (Arguments.not_fails_of_finds (hfinds (congrArg (·.2) hnone)) (.inl rfl))
      ((hw.relayEvents _).tell _)
  · next hne hsome =>
    exact ends_fixWhenReady (hfinds (congrArg (·.2) hsome)) (fun hnil => hne (hnil ▸ rfl)) hc
      (hw.relayEvents _) hlink

theorem ends_handleBuild (hs : a.settings around = .ok s) (hno : a.healthCheck = false)
    (hc : ServiceClient.ofSettings s.service = .ok c) (hw : a.Modest around w)
    (htree : w.log.tree = s.log.file.opened around.tree) (hlink : w.link = around.link) :
    Ends a around (w.handleBuild s c a around) := by
  unfold handleBuild
  split
  · next w' failure hobtain =>
    obtain ⟨hresult, hw', -⟩ := modest_obtainOutput hw htree hobtain
    split
    · exact .failed (.output hs hno hresult.symm) (hw'.tell _)
    · exact .stopped failure hw'
  · next w' output hobtain =>
    obtain ⟨hresult, hw', hlink'⟩ := modest_obtainOutput hw htree hobtain
    split
    · next hcheck => exact ends_reportFindings hs hno hresult.symm hcheck hw'
    · next hnocheck =>
      exact ends_mend hs hno (by simpa using hnocheck) hresult.symm hc hw' (hlink'.trans hlink)

theorem ends_runWith (hs : a.settings around = .ok s) (hfile : w.journal.file = none)
    (htree : w.log.tree = around.tree) (hlink : w.link = around.link) :
    Ends a around (w.runWith s a around) := by
  have hopen : ∀ {w' result}, w.reopenLog s.log a = (w', result) → a.Modest around w' ∧
      w'.log.tree = s.log.file.opened around.tree ∧ w'.link = around.link := by
    intro w' result h
    obtain ⟨hw', htree', hlink'⟩ := modest_reopenLog w s.log a hfile h
    rw [htree, hlink, ← Arguments.logFile_of_settings hs] at hw'
    exact ⟨hw', htree ▸ htree', hlink'.trans hlink⟩
  unfold runWith
  split
  · next w' failure hreopen => exact .stopped failure (hopen hreopen).1
  next w' hreopen =>
  obtain ⟨hw', htree', hlink'⟩ := hopen hreopen
  split
  · next failure hc => exact .stopped failure hw'
  next c hc =>
  split
  · next hasked => exact ends_checkHealth hs hc hasked hw' hlink'
  · next hno => exact ends_handleBuild hs (by simpa using hno) hc hw' htree' hlink'

end Work

namespace Arguments

variable {a : Arguments} {around : Surroundings} {s : Settings}

/-- The work of an invocation when its beginning is told. -/
def begun (a : Arguments) (around : Surroundings) : Work :=
  (a.start around).tell (.starting programVersion (a.configuration.map (·.text)))

theorem tree_begun (a : Arguments) (around : Surroundings) :
    (a.begun around).log.tree = around.tree :=
  Work.tree_tell rfl _

/-- An invocation works with its settings, if it can load them. -/
theorem course_eq (a : Arguments) (around : Surroundings) : a.course around =
    match Settings.load around.tree around.environment a.configuration with
    | .ok s => (a.begun around).runWith (s.within a.directory) a around
    | .error failure =>
      if failure.isMissingFile then
        ((a.begun around).tell (.configurationMissing ((a.configuration.map (·.text)).getD [])
          failure.message)).exit 1
      else if failure.isBadValue then
        ((a.begun around).tell (.configurationInvalid failure.message)).exit 1
      else (a.begun around).fail failure := by
  rw [← tree_begun a around]
  rfl

theorem course_of_settings (hs : a.settings around = .ok s) :
    a.course around = (a.begun around).runWith s a around := by
  rw [course_eq]
  unfold settings at hs
  split
  · next s' hload =>
    rw [hload] at hs
    obtain rfl : s'.within a.directory = s := Except.ok.inj hs
    rfl
  · next failure hload => simp [hload, Except.map] at hs

end Arguments

/-- **An invocation ends in one of the four ways.** -/
theorem ends_course (a : Arguments) (around : Surroundings) : Ends a around (a.course around) := by
  have hw : a.Modest around (a.begun around) := by
    have hmodest := Work.modest_of_unlogged (w := a.begun around) rfl (a.logFile around)
    rwa [Arguments.tree_begun] at hmodest
  rw [Arguments.course_eq]
  split
  · next s hload =>
    have hs : a.settings around = .ok (s.within a.directory) := by
      simp [Arguments.settings, hload, Except.map]
    exact Work.ends_runWith hs rfl (Arguments.tree_begun a around) rfl
  · next failure hload =>
    have hsettings : a.settings around = .error failure := by
      simp [Arguments.settings, hload, Except.map]
    have hfails : a.Fails around .configuration := .configuration hsettings
    split
    · exact .failed hfails (hw.tell _)
    · split
      · exact .failed hfails (hw.tell _)
      · exact .stopped failure hw

/-! ## 4. Invocations -/

/-- What is left of an invocation is what its course leaves when it is finished. -/
theorem invoke_of_read {words : List Text} {a : Arguments} (around : Surroundings)
    (hread : Arguments.read words = .ok a) :
    (invoke words around).code = (Work.finish (a.course around)).2 ∧
      (invoke words around).link = (Work.finish (a.course around)).1.link ∧
      (invoke words around).tree = (Work.finish (a.course around)).1.log.tree := by
  simp only [invoke, hread]
  exact ⟨rfl, rfl, rfl⟩

/-- **The exit code and the effects of an invocation.** If no failure but an interruption gets to
its end, then without one the exit code is 1 if a stage fails and 0 otherwise. If the exit code is
1, or nothing was to be fixed, then the service was only asked, and of the files only the log file
was touched, with the directories on its way. -/
theorem invoke_exits (words : List Text) (a : Arguments) (around : Surroundings)
    (hread : Arguments.read words = .ok a)
    (hforeseen : ∀ failure, (a.course around).2 = .error failure → failure = .interrupted) :
    ((a.course around).2 = .error .interrupted ∧ (invoke words around).code = 130 ∨
      (∃! stage, a.Fails around stage) ∧ (invoke words around).code = 1 ∨
      (∀ stage, ¬ a.Fails around stage) ∧ (invoke words around).code = 0) ∧
    ((invoke words around).code = 1 ∨ a.check = true ∨ a.healthCheck = true ∨
        (∀ s ds, a.Finds around s ds → ds = []) →
      around.link.AsksOnly (invoke words around).link ∧
        LoggedTo (a.logFile around) around.tree (invoke words around).tree) := by
  obtain ⟨hcode, hlink, htree⟩ := invoke_of_read around hread
  rw [hcode, hlink, htree]
  have hends := ends_course a around
  generalize a.course around = step at *
  cases hends with
  | @failed w stage hfails hw =>
    have honly : ∃! stage, a.Fails around stage := ⟨stage, hfails, fun _ h => h.unique hfails⟩
    exact ⟨.inr (.inl ⟨honly, rfl⟩), fun _ => ⟨hw.link, hw.tree⟩⟩
  | done hnone hw => exact ⟨.inr (.inr ⟨hnone, rfl⟩), fun _ => ⟨hw.link, hw.tree⟩⟩
  | stopped failure hw =>
    obtain rfl := hforeseen failure rfl
    have hw' := hw.tell .interrupted
    exact ⟨.inl ⟨rfl, rfl⟩, fun _ => ⟨hw'.link, hw'.tree⟩⟩
  | @fixed step s ds hfinds hne hnone hzero =>
    have hbusy := hfinds.not_quiet hne
    obtain ⟨w, result⟩ := step
    cases result with
    | ok code =>
      obtain rfl := hzero code rfl
      refine ⟨.inr (.inr ⟨hnone, rfl⟩), fun hquiet => ?_⟩
      exact absurd hquiet (not_or.mpr ⟨Nat.zero_ne_one, hbusy⟩)
    | error failure =>
      obtain rfl := hforeseen failure rfl
      refine ⟨.inl ⟨rfl, rfl⟩, fun hquiet => ?_⟩
      exact absurd hquiet (not_or.mpr ⟨by simp [Work.finish], hbusy⟩)

/-! ## 5. A log file that cannot be opened -/

/-- The words that ask for a report on what stands on standard input. -/
def reportWords : List Text := ["--check", "-i", "-"]

/-- What these words ask for. -/
def reportArguments : Arguments := { input := some "-", check := true }

/-- A path by a directory that is missing, and back. -/
def detour : FilePath := ⟨.relative, ["logs", ".."]⟩

/-- The directory on that path. -/
def detourDirectory : Location := FileTree.workDirectory ++ [("logs" : Text)]

/-- An empty directory, and a log file wanted under the path. -/
def detourSurroundings : Surroundings where
  tree := .empty
  environment :=
    [("CHECKSTYLE_FIXER_LOGGING__FILE__ENABLED", "1"),
      ("CHECKSTYLE_FIXER_LOGGING__FILE__PATH", "logs/..")]

/-- The tree with that directory made. -/
def detourTree : FileTree := FileTree.empty.set detourDirectory (.directory directoryMode)

theorem settings_detour : ∃ s, reportArguments.settings detourSurroundings = .ok s ∧
    s.log.file.wanted = some detour ∧ s.service.address = "http://localhost:11434" := by
  have hread : ((reportArguments.settings detourSurroundings).map fun s =>
      (s.log.file.wanted, s.service.address)).toOption =
        some (some detour, ("http://localhost:11434" : Text)) := by decide +kernel
  cases hs : reportArguments.settings detourSurroundings with
  | error failure => simp [hs, Except.map, Except.toOption] at hread
  | ok s => exact ⟨s, rfl, by simpa [hs, Except.map, Except.toOption] using hread⟩

theorem openFile_detour : Log.Journal.openFile .empty detour =
    (detourTree, .error (.system .isDirectory)) := by
  cbv

theorem ofSettings_detour {s : ServiceSettings} (h : s.address = "http://localhost:11434") :
    ∃ c, ServiceClient.ofSettings s = .ok c := by
  have hread : (BaseAddress.read "http://localhost:11434").toOption.isSome := by decide +kernel
  unfold ServiceClient.ofSettings
  rw [h]
  cases hbase : BaseAddress.read "http://localhost:11434" with
  | error failure => simp [hbase, Except.toOption] at hread
  | ok base => exact ⟨_, rfl⟩

/-- The report is made without a log file, and leaves the directory behind. -/
theorem course_detour : ∃ w, reportArguments.course detourSurroundings = (w, .ok 0) ∧
    w.log.tree = detourTree := by
  obtain ⟨s, hs, hwanted, haddress⟩ := settings_detour
  obtain ⟨c, hc⟩ := ofSettings_detour haddress
  have htree := Arguments.tree_begun reportArguments detourSurroundings
  obtain ⟨w, hreopen, hfile, hopened⟩ := Work.reopenLog_of_refused
    (w := reportArguments.begun detourSurroundings) (s := s.log) reportArguments hwanted
    (by rw [htree]; exact openFile_detour)
  rw [Arguments.course_of_settings hs, Work.runWith, hreopen]
  simp only [hc]
  have hreport : w.handleBuild s c reportArguments detourSurroundings =
      w.reportFindings s false [] := rfl
  refine ⟨_, hreport, ?_⟩
  exact hopened

/-- The conditions hold of that report: no stage fails, and nothing is done but to open a log. -/
theorem invoke_exits_detour :
    Arguments.read reportWords = .ok reportArguments ∧
      (∀ stage, ¬ reportArguments.Fails detourSurroundings stage) ∧
      (invoke reportWords detourSurroundings).code = 0 ∧
      detourSurroundings.link.AsksOnly (invoke reportWords detourSurroundings).link ∧
      LoggedTo (reportArguments.logFile detourSurroundings) .empty
        (invoke reportWords detourSurroundings).tree := by
  have hread : Arguments.read reportWords = .ok reportArguments := by cbv
  obtain ⟨w, hcourse, -⟩ := course_detour
  have hdone : (reportArguments.course detourSurroundings).2 = .ok 0 := congrArg (·.2) hcourse
  obtain ⟨hexit, hquiet⟩ := invoke_exits reportWords reportArguments detourSurroundings hread
    fun failure hfailure => absurd (hdone.symm.trans hfailure) (by simp)
  have hcode : (invoke reportWords detourSurroundings).code = 0 := by
    rw [(invoke_of_read _ hread).1, hcourse]
    rfl
  obtain ⟨hlink, htree⟩ := hquiet (.inr (.inl rfl))
  rcases hexit with ⟨-, h⟩ | ⟨-, h⟩ | ⟨hnone, -⟩
  · exact absurd (hcode.symm.trans h) (by decide)
  · exact absurd (hcode.symm.trans h) (by decide)
  · exact ⟨hread, hnone, hcode, hlink, htree⟩

/-- **More than the log file may change**: the way to it is made before it is opened, and stays when
it cannot be opened. -/
theorem report_makes_directory : ¬ ∀ (words : List Text) (a : Arguments) (around : Surroundings),
    Arguments.read words = .ok a →
    (∀ failure, (a.course around).2 = .error failure → failure = .interrupted) →
    a.check = true → ∀ l, (invoke words around).tree.at? l ≠ around.tree.at? l →
      ∃ path bytes mode, a.logFile around = some path ∧
        (invoke words around).tree.lookup true (around.tree.absolutePath path) =
          .ok (.found l (.file bytes mode)) := by
  intro h
  have hread : Arguments.read reportWords = .ok reportArguments := by cbv
  obtain ⟨w, hcourse, hmade⟩ := course_detour
  have hdone : (reportArguments.course detourSurroundings).2 = .ok 0 := congrArg (·.2) hcourse
  have htree : (invoke reportWords detourSurroundings).tree = detourTree := by
    rw [(invoke_of_read _ hread).2.2, hcourse]
    exact hmade
  have hthere : detourTree.at? detourDirectory = some (.directory directoryMode) := by decide
  have hfree : FileTree.empty.at? detourDirectory = none := by decide
  have hchanged : detourTree.at? detourDirectory ≠ detourSurroundings.tree.at? detourDirectory := by
    rw [hthere, show detourSurroundings.tree.at? detourDirectory = none from hfree]
    simp
  obtain ⟨path, bytes, mode, -, hfound⟩ := h reportWords reportArguments detourSurroundings hread
    (fun failure hfailure => absurd (hdone.symm.trans hfailure) (by simp)) rfl detourDirectory
    (htree ▸ hchanged)
  rw [htree] at hfound
  exact absurd (hthere.symm.trans (at?_of_found hfound)) (by simp)

end LintMend
