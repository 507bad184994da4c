/-
LintMend.Proofs.CommandLine.Requests — what the bounds of a configuration are good for.

The settings of an invocation are loaded, so they are within their bounds. What is done with them
is, too: the paths of the diagnostics end with their extension, and each request that is sent is a
question or asks for text at their temperature. For the requests, every step of an invocation is
followed that gets hold of the link to the service.

  `Request.AsksAt`, `Link.Sends`  — requests at a temperature, and links that went on with such ones
  `sends_after`                   — what prompts make a client send
  `sends_runWith`, `sends_invoke` — what an invocation sends, step by step
  `load_bounded`                  — a configuration that is loaded, and what is done with it
-/
import LintMend.Proofs.CommandLine.ExitCode
import LintMend.Proofs.Configuration.Bounds
import LintMend.Proofs.Diagnostic.SingleLine
import LintMend.Proofs.Fixing.Asking

namespace LintMend

/-! ## 1. Requests at a temperature -/

namespace Request

/-- The temperature that a request carries among the options in its body. -/
def temperature? (r : Request) : Option Float :=
  match (r.body.bind (·.field? "options")).bind (·.field? "temperature") with
  | some (.float x) => some x
  | _ => none

/-- A request is a question, or asks for text at a temperature. -/
def AsksAt (x : Float) (r : Request) : Prop :=
  r.IsQuestion ∨ r.temperature? = some x

/-- The body of a request for text carries its temperature. -/
theorem temperature?_generateBody (method address model prompt : Text) (x : Float) :
    temperature? ⟨method, address, some (ServiceClient.generateBody model prompt x)⟩ = some x :=
  rfl

end Request

namespace Link

variable {P Q : Request → Prop} {l l' l'' : Link}

/-- A link has gone on to another, and what was sent in between has a property. -/
def Sends (P : Request → Prop) (l l' : Link) : Prop :=
  ∃ sent, l'.requests = l.requests ++ sent ∧ ∀ r ∈ sent, P r

namespace Sends

theorem of_eq (h : l'.requests = l.requests) : l.Sends P l' :=
  ⟨[], by rw [h, List.append_nil], List.forall_mem_nil _⟩

theorem refl (l : Link) : l.Sends P l :=
  of_eq rfl

theorem trans (h : l.Sends P l') (h' : l'.Sends P l'') : l.Sends P l'' := by
  obtain ⟨sent, hsent, hall⟩ := h
  obtain ⟨sent', hsent', hall'⟩ := h'
  refine ⟨sent ++ sent', ?_, List.forall_mem_append.mpr ⟨hall, hall'⟩⟩
  rw [hsent', hsent, List.append_assoc]

theorem mono (h : l.Sends P l') (himp : ∀ r, P r → Q r) : l.Sends Q l' := by
  obtain ⟨sent, hsent, hall⟩ := h
  exact ⟨sent, hsent, fun r hr => himp r (hall r hr)⟩

end Sends

/-- Who only asks sends nothing at another temperature. -/
theorem AsksOnly.sends (h : l.AsksOnly l') (x : Float) : l.Sends (Request.AsksAt x) l' := by
  obtain ⟨asked, hasked, hall⟩ := h
  exact ⟨asked, hasked, fun r hr => .inl (hall r hr)⟩

end Link

/-! ## 2. What a client sends -/

namespace ServiceClient

variable {c : ServiceClient}

theorem settings_of_ofSettings {s : ServiceSettings} (h : ofSettings s = .ok c) :
    c.settings = s := by
  unfold ofSettings at h
  cases hbase : BaseAddress.read s.address with
  | error failure =>
    rw [hbase] at h
    exact nomatch h
  | ok base =>
    rw [hbase] at h
    obtain rfl := Except.ok.inj h
    rfl

/-- A request for text carries the temperature of the client. -/
theorem sends_answer (c : ServiceClient) (l : Link) (prompt : Text) :
    l.Sends (Request.AsksAt c.settings.temperature) (c.service.answer l prompt).next := by
  refine ⟨_, generate_requests c { l with log := [] } prompt, ?_⟩
  intro r hr
  split at hr
  · exact nomatch hr
  · obtain rfl := List.mem_singleton.mp hr
    exact .inr (Request.temperature?_generateBody ..)

/-- **Prompts make a client send requests at its temperature**, and no others. -/
theorem sends_after (c : ServiceClient) (prompts : List Text) :
    ∀ l : Link, l.Sends (Request.AsksAt c.settings.temperature) (c.service.after l prompts) := by
  induction prompts with
  | nil => exact .refl
  | cons prompt rest ih => exact fun l => (sends_answer c l prompt).trans (ih _)

end ServiceClient

/-- So does a run, which touches the client by prompts alone. -/
theorem Fixer.sends_run {f : Fixer Link} {c : ServiceClient} (h : f.service = c.service)
    (w : World Link) (ds : List Diagnostic) :
    w.service.Sends (Request.AsksAt c.settings.temperature) (f.run w ds).1.service := by
  obtain ⟨sent, -, hservice⟩ := consulted_run f w ds
  rw [hservice, h]
  exact c.sends_after sent w.service

/-! ## 3. What an invocation sends -/

namespace Work

variable {w : Work} {c : ServiceClient} {s : Settings} {a : Arguments} {around : Surroundings}
  {P : Request → Prop}

theorem link_foldl_tell (events : List Log.Event) :
    ∀ w : Work, (events.foldl tell w).link = w.link := by
  induction events with
  | nil => exact fun w => rfl
  | cons e rest ih => exact fun w => ih (w.tell e)

/-- What is sent on a link is sent by the work that goes on with it. -/
theorem sends_relink {l : Link} (h : w.link.Sends P l) : w.link.Sends P (w.relink l).link :=
  h.trans (.of_eq rfl)

theorem sends_checkHealth (w : Work) (c : ServiceClient) (clock : Int) (x : Float) :
    w.link.Sends (Request.AsksAt x) (w.checkHealth c clock).1.link := by
  have hasks := HealthReport.asksOnly_health c clock 0.0 w.link
  unfold checkHealth
  split
  · next hrun => exact sends_relink ((hasks.of_step hrun).sends x)
  · next hrun =>
    have hsends := sends_relink ((hasks.of_step hrun).sends x)
    simp only
    split <;> exact hsends

theorem sends_fix (w : Work) (s : Settings) (c : ServiceClient) (dryRun : Bool)
    (ds : List Diagnostic) :
    w.link.Sends (Request.AsksAt c.settings.temperature) (w.fix s c dryRun ds).1.link := by
  let f : Fixer Link := { service := c.service, files := s.files, dryRun }
  let world : World Link := { tree := w.log.tree, service := w.link }
  have hrun := Fixer.sends_run (f := f) rfl world ds
  unfold fix
  simp only
  split
  · exact hrun
  · simp only [exit, link_foldl_tell]
    exact hrun

theorem sends_fixWhenReady (w : Work) (s : Settings) (c : ServiceClient) (a : Arguments)
    (ds : List Diagnostic) :
    w.link.Sends (Request.AsksAt c.settings.temperature) (w.fixWhenReady s c a ds).1.link := by
  have hasks := c.asksOnly_waitUntilReady w.link a.attempts
  unfold fixWhenReady
  split
  · exact sends_fix w s c a.dryRun ds
  · split
    · next l _ hwait =>
      have hwaited := sends_relink ((hasks.of_step hwait).sends c.settings.temperature)
      exact hwaited.trans (sends_fix (w.relink l) s c a.dryRun ds)
    · next hwait =>
      have hwaited := sends_relink ((hasks.of_step hwait).sends c.settings.temperature)
      simp only
      split <;> exact hwaited

theorem sends_mend (w : Work) (s : Settings) (c : ServiceClient) (a : Arguments) (output : Text) :
    w.link.Sends (Request.AsksAt c.settings.temperature) (w.mend s c a output).1.link := by
  unfold mend
  split
  · exact .refl w.link
  · exact .refl w.link
  · next events ds _ _ => exact sends_fixWhenReady (w.relayEvents events) s c a ds

theorem link_obtainOutput {programs : Programs} {input : Text} {source : Option Text} {w' : Work}
    {result : Except Failure Text}
    (h : w.obtainOutput s programs input source = (w', result)) : w'.link = w.link := by
  cases source with
  | some source => exact (congrArg (·.1.link) h).symm
  | none => exact (congrArg (·.1.link) h).symm

theorem sends_handleBuild (w : Work) (s : Settings) (c : ServiceClient) (a : Arguments)
    (around : Surroundings) :
    w.link.Sends (Request.AsksAt c.settings.temperature) (w.handleBuild s c a around).1.link := by
  unfold handleBuild
  split
  · next hobtain =>
    rw [← link_obtainOutput hobtain]
    split <;> exact .refl _
  · next w' output hobtain =>
    rw [← link_obtainOutput hobtain]
    split
    · unfold reportFindings
      simp only
      split <;> exact .refl _
    · exact sends_mend w' s c a output

theorem link_reopenLog {s : LogSettings} {w' : Work} {result : Except Failure Unit}
    (h : w.reopenLog s a = (w', result)) : w'.link = w.link := by
  unfold reopenLog at h
  simp only at h
  split at h <;> exact (congrArg (·.1.link) h).symm

/-- **Work with settings sends requests at their temperature**, besides questions. -/
theorem sends_runWith (w : Work) (s : Settings) (a : Arguments) (around : Surroundings) :
    w.link.Sends (Request.AsksAt s.service.temperature) (w.runWith s a around).1.link := by
  unfold runWith
  split
  · next hreopen =>
    rw [← link_reopenLog hreopen]
    exact .refl _
  next w' hreopen =>
  rw [← link_reopenLog hreopen]
  split
  · exact .refl w'.link
  next c hc =>
  rw [← ServiceClient.settings_of_ofSettings hc]
  split
  · exact sends_checkHealth w' c around.clock _
  · exact sends_handleBuild w' s c a around

theorem link_finish (step : Step) : (finish step).1.link = step.1.link := by
  unfold finish
  split <;> rfl

end Work

/-- **An invocation sends requests at the temperature of its settings**, besides questions. -/
theorem Arguments.sends_invoke {a : Arguments} {words : List Text} {around : Surroundings}
    {s : Settings} (hread : Arguments.read words = .ok a) (hs : a.settings around = .ok s) :
    around.link.Sends (Request.AsksAt s.service.temperature) (invoke words around).link := by
  have hworked := Work.sends_runWith (a.begun around) s a around
  rw [(invoke_of_read around hread).2.1, Work.link_finish, Arguments.course_of_settings hs]
  exact hworked

/-! ## 4. Configurations -/

/-- **Every configuration that is loaded is within its bounds**, and so is what is done with it:
what is extracted names files with its extension, and an invocation that loads it sends questions,
and else only requests at its temperature. -/
theorem load_bounded (tree : FileTree) (env : Environment) (source : Option FilePath) (s : Settings)
    (h : Settings.load tree env source = .ok s) :
    s.Bounded ∧
    (∀ output ds, (s.extractor.extract output).2 = .ok ds →
      ∀ d ∈ ds, ∃ name, name ≠ [] ∧ d.file = name ++ s.extraction.fileExtension) ∧
    ∀ words a around, Arguments.read words = .ok a → a.configuration = source →
      around.tree = tree → around.environment = env →
        ∃ sent, (invoke words around).link.requests = around.link.requests ++ sent ∧
          ∀ r ∈ sent, r.IsQuestion ∨ (r.temperature? = some s.service.temperature ∧
            0.0 ≤ s.service.temperature ∧ s.service.temperature ≤ 2.0) := by
  have hbounded := Settings.bounded_of_load h
  refine ⟨hbounded, fun _ _ hds d hd => Extractor.file_of_extract hds hd, ?_⟩
  rintro words a around hread rfl rfl rfl
  have hs : a.settings around = .ok (s.within a.directory) := by
    rw [Arguments.settings, h]
    rfl
  have hservice : (s.within a.directory).service = s.service := by
    cases a.directory <;> rfl
  have hsends := Arguments.sends_invoke hread hs
  rw [hservice] at hsends
  refine hsends.mono ?_
  rintro r (hquestion | htemperature)
  · exact .inl hquestion
  · exact .inr ⟨htemperature, hbounded.service.temperature⟩

/-- A configuration file that leaves its temperature to a variable. -/
def tunedText : Text :=
  "extraction:\n  extension: .kt\nollama:\n  temperature: $\x7bT\x7d\n"

/-- A directory with that file. -/
def tunedTree : FileTree :=
  ⟨[], [(["c"], .file ((Utf8.encode tunedText).toOption.getD []) 0o644)]⟩

/-- The variable, and another one that sets the lines of context. -/
def tunedEnvironment : Environment :=
  [("T", "2"), ("CHECKSTYLE_FIXER_FIXING__CONTEXT_LINES", "7")]

/-- The path of the file. -/
def tunedSource : FilePath :=
  ⟨.relative, ["c"]⟩

/-- What an invocation finds there. -/
def tunedSurroundings (input : Text) (link : Link) : Surroundings where
  tree := tunedTree
  environment := tunedEnvironment
  input := input
  link := link

theorem load_tuned : ∃ s, Settings.load tunedTree tunedEnvironment (some tunedSource) = .ok s ∧
    s.extraction.fileExtension = ".kt" ∧ s.fixing.contextLines = 7 ∧
    (s.service.temperature == 2.0) = true := by
  have hfile : Settings.readFile tunedTree tunedSource = .ok tunedText := by cbv
  have hread : ((Settings.ofText tunedEnvironment tunedSource tunedText).map fun s =>
      (s.extraction.fileExtension, s.fixing.contextLines, s.service.temperature == 2.0)).toOption =
        some ((".kt" : Text), (7 : Int), true) := by decide +kernel
  have hload : Settings.load tunedTree tunedEnvironment (some tunedSource) =
      Settings.ofText tunedEnvironment tunedSource tunedText := by
    rw [Settings.load, hfile]
  rw [hload]
  cases hs : Settings.ofText tunedEnvironment tunedSource tunedText with
  | error failure => simp [hs, Except.map, Except.toOption] at hread
  | ok s => exact ⟨s, rfl, by simpa [hs, Except.map, Except.toOption] using hread⟩

/-- The highest temperature, from a variable that the file refers to, is still within the bounds. -/
theorem load_bounded_tuned :
    ∃ s, Settings.load tunedTree tunedEnvironment (some tunedSource) = .ok s ∧
      s.extraction.fileExtension = ".kt" ∧ s.fixing.contextLines = 7 ∧
      (s.service.temperature == 2.0) = true ∧ s.Bounded ∧
      ∀ input link, ∃ sent,
        (invoke ["--config", "c"] (tunedSurroundings input link)).link.requests =
          link.requests ++ sent ∧
        ∀ r ∈ sent, r.IsQuestion ∨ (r.temperature? = some s.service.temperature ∧
          0.0 ≤ s.service.temperature ∧ s.service.temperature ≤ 2.0) := by
  obtain ⟨s, hload, hextension, hlines, htemperature⟩ := load_tuned
  obtain ⟨hbounded, -, hsent⟩ := load_bounded tunedTree tunedEnvironment (some tunedSource) s hload
  have hread : Arguments.read ["--config", "c"] = .ok { configuration := some tunedSource } := by
    cbv
  refine ⟨s, hload, hextension, hlines, htemperature, hbounded, fun input link => ?_⟩
  exact hsent _ _ (tunedSurroundings input link) hread rfl rfl rfl

end LintMend
