/-
LintMend.Proofs.Fixing.Containment — what can end a run before its last diagnostic.

Failures of the service, of its reply, of reading and of writing are recorded with the diagnostic,
and the run goes on. One step of an attempt is not guarded so: the look for the file that comes
first. It fails if the way to the file has come to hold a name, or to be a path, that is too long,
as when somebody puts a link in the place of the file. That failure ends the run.

  `Uninterrupted`           — from a world on, the operator does not stop the run
  `TooLong`, `runLooks`     — looks that fail, and all looks of a run
  `fixDiagnostic_contained` — an attempt has an outcome unless its look fails
  `run_contained`           — a run has a summary unless one of its looks fails
  `failures_contained`      — both, with the outcomes
  `run_escapes`             — a run that a look ends
-/
import LintMend.Proofs.Failure
import LintMend.Proofs.Fixing.Counts

namespace LintMend

variable {σ : Type}

/-! ## 1. Runs that are not stopped -/

namespace Service

variable {svc : Service σ} {P : Answer σ → Prop} {state : σ}

/-- The state of a service after some prompts. -/
def after (svc : Service σ) (state : σ) (prompts : List Text) : σ :=
  prompts.foldl (fun state prompt => (svc.answer state prompt).next) state

/-- From a state on, all answers have a property, whatever the prompts are. -/
def Always (svc : Service σ) (P : Answer σ → Prop) (state : σ) : Prop :=
  ∀ prompts prompt, P (svc.answer (svc.after state prompts) prompt)

theorem Always.answer (h : svc.Always P state) (prompt : Text) : P (svc.answer state prompt) :=
  h [] prompt

theorem Always.next (h : svc.Always P state) (prompt : Text) :
    svc.Always P (svc.answer state prompt).next :=
  fun prompts => h (prompt :: prompts)

/-- Prepared replies have a property if each of them has it, and the failure after the last. -/
theorem always_ofScript {P : Answer (List Reply) → Prop} {model : Text} {replies : List Reply}
    (h : ∀ rest, rest <:+ replies → ∀ prompt, P ((ofScript model).answer rest prompt)) :
    (ofScript model).Always P replies := by
  intro prompts
  induction prompts generalizing replies with
  | nil => exact h replies (List.suffix_refl replies)
  | cons prompt prompts ih =>
    refine ih fun rest hrest => h rest (hrest.trans ?_)
    cases replies with
    | nil => exact List.suffix_refl []
    | cons reply replies => exact List.suffix_cons reply replies

end Service

/-- An answer that is not the operator's stop, and neither is the write after it. -/
structure Answer.NoStop (a : Answer σ) : Prop where
  result : a.result ≠ .error .interrupted
  writeFault : a.writeFault ≠ some .interrupted

namespace Fixer

variable {f : Fixer σ} {w w' : World σ} {s s' : Session} {d : Diagnostic}

/-- From a world on, the operator does not stop the run. -/
structure Uninterrupted (f : Fixer σ) (w : World σ) : Prop where
  service : f.service.Always Answer.NoStop w.service
  write : w.writeFault ≠ some .interrupted

namespace Uninterrupted

theorem congr (h : f.Uninterrupted w) (hservice : w'.service = w.service)
    (hwrite : w'.writeFault = w.writeFault) : f.Uninterrupted w' :=
  ⟨hservice ▸ h.service, hwrite ▸ h.write⟩

theorem logs (h : f.Uninterrupted w) (hlogs : w.Logs w') : f.Uninterrupted w' :=
  h.congr hlogs.service hlogs.writeFault

theorem othersAct (h : f.Uninterrupted w) : f.Uninterrupted w.othersAct :=
  h.congr w.othersAct_service w.othersAct_writeFault

theorem asked (h : f.Uninterrupted w) {result : Except Failure Text}
    (hasked : Asked f w s d w' result) : f.Uninterrupted w' := by
  constructor
  · rw [hasked.service]
    exact h.service.next _
  · rw [hasked.writeFault]
    have hanswer := (h.service.answer (Prompt.text d s.current)).writeFault
    cases hfault : (f.service.answer w.service (Prompt.text d s.current)).writeFault with
    | none => exact h.write
    | some failure =>
      rw [hfault] at hanswer
      exact hanswer

theorem wrote (h : f.Uninterrupted w) {path content : Text} {result : Except Failure Unit}
    (hwrote : Wrote f w path content w' result) : f.Uninterrupted w' := by
  cases hwrote with
  | spoiled => exact ⟨h.service, by simp⟩
  | failed _ _ hlogs | made _ _ hlogs => exact h.othersAct.congr hlogs.service hlogs.writeFault

/-- A write meets the operator's stop only if that was set for it. -/
theorem write_ne (h : f.Uninterrupted w) {path content : Text} {failure : Failure}
    (hwrote : Wrote f w path content w' (.error failure)) : failure ≠ .interrupted := by
  cases hwrote with
  | spoiled hfault =>
    rintro rfl
    exact h.write hfault
  | failed _ hwrite _ =>
    exact fun hstop =>
      SourceFiles.write_ne_interrupted hwrite (Failure.drawn_eq_interrupted_iff.mp hstop)

theorem not_stopped (h : f.Uninterrupted w) : ¬ Stopped f w s d w' := by
  rintro (hasked | ⟨hasked, hleft⟩)
  · have hstop := (asked_of_request hasked).result.symm
    exact (h.othersAct.service.answer _).result (usableContent_interrupted_iff.mp hstop)
  · have hthen := h.othersAct.asked (asked_of_request hasked)
    exact hthen.write_ne (wrote_of_writeContent hleft) rfl

/-- What an attempt leaves is not stopped either. -/
theorem attempted (h : f.Uninterrupted w) {r : World σ × Session × Outcome}
    (hr : Attempted f w s d r) : f.Uninterrupted r.1 := by
  cases hr with
  | missing => exact h.othersAct.logs (World.logs_emit _ _)
  | refused _ hasked =>
    exact (h.othersAct.asked (asked_of_request hasked)).logs (logs_failAnswer ..)
  | simulated _ hasked =>
    exact (h.othersAct.asked (asked_of_request hasked)).logs (World.logs_emit _ _)
  | unwritten _ hasked _ hleft =>
    have hthen := h.othersAct.asked (asked_of_request hasked)
    exact (hthen.wrote (wrote_of_writeContent hleft)).logs (logs_failWrite ..)
  | written _ hasked _ hleft =>
    have hthen := h.othersAct.asked (asked_of_request hasked)
    exact (hthen.wrote (wrote_of_writeContent hleft)).logs (World.logs_emit _ _)

end Uninterrupted

/-! ## 2. Looking for the file -/

/-- A look for a file in a tree fails: on the way to the file there is a name that is too long, or
the path is. -/
def TooLong (f : Fixer σ) (look : FileTree × Text) : Prop :=
  look.1.stat (f.files.resolve look.2) = .error (.system .nameTooLong)

/-- The looks for its file that a row of attempts takes, one before each attempt. -/
def rowLooks (f : Fixer σ) (w : World σ) (s : Session) : List Diagnostic → List (FileTree × Text)
  | [] => []
  | d :: rest =>
    (w.othersAct.tree, s.path) ::
      match f.fixDiagnostic w s d with
      | (w, .ok (s, _)) => f.rowLooks w s rest
      | (_, .error _) => []

/-- The looks before the attempts at one file; a file that cannot be read sees no attempt. -/
def fileLooks (f : Fixer σ) (w : World σ) (path : Text) (ds : List Diagnostic) :
    List (FileTree × Text) :=
  match f.readFile (w.bind "file" (.text path)) path with
  | (w, .ok content) => f.rowLooks (w.emit (.sessionStarted ds.length)) (.start path content) ds
  | (_, .error _) => []

/-- The looks before the attempts at several files. -/
def filesLooks (f : Fixer σ) (w : World σ) :
    List (Text × List Diagnostic) → List (FileTree × Text)
  | [] => []
  | (path, group) :: rest =>
    f.fileLooks w path group ++
      match f.fixFile w path group with
      | (w, .ok _) => f.filesLooks w rest
      | (_, .error _) => []

/-- The looks before all attempts of a run. -/
def runLooks (f : Fixer σ) (w : World σ) (ds : List Diagnostic) : List (FileTree × Text) :=
  f.filesLooks (f.started w ds) (Diagnostic.groupByFile ds)

/-- How what a run does can end, given the looks that it takes: it returns, or one of the looks
fails and the failure is passed on. -/
inductive Contained (f : Fixer σ) (looks : List (FileTree × Text)) {α : Type} :
    World σ × Except Failure α → Prop
  | returned {w : World σ} {a : α} : (∀ look ∈ looks, ¬ f.TooLong look) →
      f.Uninterrupted w → Contained f looks (w, .ok a)
  | ended {w : World σ} {look : FileTree × Text} : look ∈ looks → f.TooLong look →
      Contained f looks (w, .error (f.files.refusal look.2 .nameTooLong))

namespace Contained

variable {α : Type} {looks : List (FileTree × Text)} {result : World σ × Except Failure α}

theorem result_eq (h : Contained f looks result) :
    (∃ look ∈ looks, f.TooLong look ∧
      result.2 = .error (f.files.refusal look.2 .nameTooLong)) ∨
    ((∀ look ∈ looks, ¬ f.TooLong look) ∧ ∃ a, result = (result.1, .ok a)) := by
  cases h with
  | returned hlooks => exact .inr ⟨hlooks, _, rfl⟩
  | ended hlook hlong => exact .inl ⟨_, hlook, hlong, rfl⟩

end Contained

/-! ## 3. What returns -/

theorem fixDiagnostic_contained (h : f.Uninterrupted w) (s : Session) (d : Diagnostic) :
    Contained f [(w.othersAct.tree, s.path)] (f.fixDiagnostic w s d) := by
  rcases fixDiagnostic_cases f w s d with ⟨e, hlook, he⟩ | ⟨w', hstop, -⟩ | ⟨r, hr⟩
  · obtain ⟨rfl, hlong⟩ := SourceFiles.isThere_eq_error_iff.mp hlook
    rw [he]
    exact .ended (List.mem_singleton.mpr rfl) hlong
  · exact absurd hstop h.not_stopped
  · rw [hr.fixDiagnostic_eq]
    refine .returned ?_ (h.attempted hr)
    intro look hlook hlong
    obtain rfl := List.mem_singleton.mp hlook
    obtain ⟨there, hthere⟩ := hr.looked
    have herror := SourceFiles.isThere_eq_error_iff.mpr ⟨rfl, hlong⟩
    exact absurd (hthere.symm.trans herror) (by simp)

theorem fixAll_contained (ds : List Diagnostic) (h : f.Uninterrupted w) (s : Session) :
    Contained f (f.rowLooks w s ds) (f.fixAll w s ds) := by
  induction ds generalizing w s with
  | nil => exact .returned (by simp [rowLooks]) h
  | cons d rest ih =>
    have hd := fixDiagnostic_contained h s d
    rw [rowLooks, fixAll]
    generalize f.fixDiagnostic w s d = result at hd ⊢
    cases hd with
    | @ended left look hlook hlong =>
      obtain rfl := List.mem_singleton.mp hlook
      exact .ended (List.mem_cons_self ..) hlong
    | @returned w₁ r hlook h₁ =>
      have hrest := ih h₁ r.1
      have hfirst := hlook _ (List.mem_singleton.mpr rfl)
      simp only
      generalize f.fixAll w₁ r.1 rest = result at hrest ⊢
      cases hrest with
      | ended hlook hlong => exact .ended (List.mem_cons_of_mem _ hlook) hlong
      | returned hlooks h' => exact .returned (List.forall_mem_cons.mpr ⟨hfirst, hlooks⟩) h'

theorem fixFile_contained (h : f.Uninterrupted w) (path : Text) (ds : List Diagnostic) :
    Contained f (f.fileLooks w path ds) (f.fixFile w path ds) := by
  rw [fileLooks, fixFile]
  rcases hread : f.readFile (w.bind "file" (.text path)) path with ⟨opened, failure | content⟩
  all_goals
    have hopened : f.Uninterrupted opened := by
      have hbound : f.Uninterrupted (w.bind "file" (.text path)) := h.congr rfl rfl
      rw [opened_of_readFile hread]
      exact hbound.othersAct.othersAct
  · obtain ⟨left, hlogs, hall⟩ := fixGroup_of_unread hread ds
    rw [hall]
    exact .returned (by simp) ((hopened.logs hlogs).congr rfl rfl)
  · rw [fixGroup_of_read hread]
    have hall := fixAll_contained ds (hopened.logs (World.logs_emit opened
      (.sessionStarted ds.length))) (.start path content)
    simp only
    generalize f.fixAll (opened.emit (.sessionStarted ds.length)) (.start path content) ds =
      result at hall ⊢
    cases hall with
    | ended hlook hlong => exact .ended hlook hlong
    | returned hlooks h' => exact .returned hlooks (h'.congr rfl rfl)

theorem fixFiles_contained (groups : List (Text × List Diagnostic)) (h : f.Uninterrupted w) :
    Contained f (f.filesLooks w groups) (f.fixFiles w groups) := by
  induction groups generalizing w with
  | nil => exact .returned (by simp [filesLooks]) h
  | cons group rest ih =>
    obtain ⟨path, ds⟩ := group
    have hfile := fixFile_contained h path ds
    rw [filesLooks, fixFiles]
    generalize f.fixFile w path ds = result at hfile ⊢
    cases hfile with
    | ended hlook hlong => exact .ended (List.mem_append_left _ hlook) hlong
    | @returned w₁ summary hfirst h₁ =>
      have hrest := ih h₁
      simp only
      generalize f.fixFiles w₁ rest = result at hrest ⊢
      cases hrest with
      | ended hlook hlong => exact .ended (List.mem_append_right _ hlook) hlong
      | returned hlooks h' =>
        refine .returned ?_ h'
        intro look hlook
        rcases List.mem_append.mp hlook with hlook | hlook
        · exact hfirst look hlook
        · exact hlooks look hlook

theorem run_contained (h : f.Uninterrupted w) (ds : List Diagnostic) :
    Contained f (f.runLooks w ds) (f.run w ds) := by
  obtain ⟨hlogs, hresult⟩ := run_eq f w ds
  have hfiles := fixFiles_contained (Diagnostic.groupByFile ds)
    (h.logs (World.logs_emit w _) : f.Uninterrupted (f.started w ds))
  rw [runLooks]
  generalize f.fixFiles (f.started w ds) (Diagnostic.groupByFile ds) = result at *
  rcases hrun : f.run w ds with ⟨w', found⟩
  rw [hrun] at hlogs hresult
  cases hfiles with
  | ended hlook hlong =>
    obtain rfl := hresult
    exact .ended hlook hlong
  | returned hlooks h' =>
    obtain rfl := hresult
    exact .returned hlooks (h'.logs hlogs)

/-- **Nothing but a failing look ends a run**, the treatment of a file or an attempt before its
time. Where no look fails each diagnostic has its outcome; where one does, its failure is all that
comes of the run. -/
theorem failures_contained (h : f.Uninterrupted w) :
    (∀ s d,
      (f.TooLong (w.othersAct.tree, s.path) ∧
        (f.fixDiagnostic w s d).2 = .error (f.files.refusal s.path .nameTooLong)) ∨
      (¬ f.TooLong (w.othersAct.tree, s.path) ∧
        ∃ s' o, (f.fixDiagnostic w s d).2 = .ok (s', o) ∧ o.diagnostic = d)) ∧
    (∀ path ds,
      (∃ look ∈ f.fileLooks w path ds, f.TooLong look ∧
        (f.fixFile w path ds).2 = .error (f.files.refusal look.2 .nameTooLong)) ∨
      ((∀ look ∈ f.fileLooks w path ds, ¬ f.TooLong look) ∧
        ∃ summary, (f.fixFile w path ds).2 = .ok summary ∧
          summary.outcomes.map (·.diagnostic) = ds)) ∧
    ∀ ds,
      (∃ look ∈ f.runLooks w ds, f.TooLong look ∧
        (f.run w ds).2 = .error (f.files.refusal look.2 .nameTooLong)) ∨
      ((∀ look ∈ f.runLooks w ds, ¬ f.TooLong look) ∧
        ∃ r, (f.run w ds).2 = .ok r ∧
          ((r.files.flatMap (·.outcomes)).map (·.diagnostic)).Perm ds) := by
  refine ⟨fun s d => ?_, fun path ds => ?_, fun ds => ?_⟩
  · rcases (fixDiagnostic_contained h s d).result_eq with
      ⟨look, hlook, hlong, herror⟩ | ⟨hshort, r, hr⟩
    · obtain rfl := List.mem_singleton.mp hlook
      exact .inl ⟨hlong, herror⟩
    · have hrecorded := (fixDiagnostic_eq_ok_iff.mp hr).recorded
      exact .inr ⟨by simpa using hshort, r.1, r.2, by rw [hr], hrecorded.diagnostic⟩
  · rcases (fixFile_contained h path ds).result_eq with hlong | ⟨hshort, summary, hfile⟩
    · exact .inl hlong
    · exact .inr ⟨hshort, summary, by rw [hfile], (fixFile_accounted hfile).diagnostics⟩
  · rcases (run_contained h ds).result_eq with hlong | ⟨hshort, r, hrun⟩
    · exact .inl hlong
    · obtain ⟨left, hfiles, -⟩ := fixFiles_of_run hrun
      exact .inr ⟨hshort, r, by rw [hrun], diagnostics_perm (fixFiles_accounted hfiles).1⟩

/-! ## 4. A run that a look ends -/

/-- A name that no entry of a directory can have. -/
def overlongName : Text :=
  List.replicate 256 'x'

/-- A service that is down while somebody puts a link to such a name in the place of the file. -/
def swappingService : Service Unit where
  model := "m"
  answer _ _ :=
    { result := .error (.serviceUnavailable "down"), next := ()
      change := fun t => t.set ["A"] (.link overlongName) }

/-- What asks that service. -/
def swappingFixer : Fixer Unit :=
  { service := swappingService, files := {} }

/-- The world before somebody comes. -/
def swappingWorld : World Unit :=
  { tree := sampleTree, service := () }

theorem uninterrupted_swapping : swappingFixer.Uninterrupted swappingWorld :=
  ⟨fun _ _ => ⟨by simp [swappingFixer, swappingService], by simp [swappingFixer, swappingService]⟩,
    by simp [swappingWorld]⟩

set_option maxRecDepth 8000 in
theorem swapping_run : (swappingFixer.run swappingWorld [sampleFinding, sampleFinding]).2 =
    .error (swappingFixer.files.refusal "A" .nameTooLong) := by
  cbv

/-- The second look is the one that fails: it ends the run without an outcome for either finding. -/
theorem failures_contained_swapping :
    swappingFixer.Uninterrupted swappingWorld ∧
    ∃ look ∈ swappingFixer.runLooks swappingWorld [sampleFinding, sampleFinding],
      swappingFixer.TooLong look := by
  refine ⟨uninterrupted_swapping, ?_⟩
  rcases (failures_contained uninterrupted_swapping).2.2 [sampleFinding, sampleFinding] with
    ⟨look, hlook, hlong, -⟩ | ⟨-, r, hr, -⟩
  · exact ⟨look, hlook, hlong⟩
  · exact absurd (hr.symm.trans swapping_run) (by simp)

/-- **A run need not return**, though no operator stops it. -/
theorem run_escapes : ¬ ∀ (f : Fixer Unit) (w : World Unit) (ds : List Diagnostic),
    f.Uninterrupted w → ∃ w' r, f.run w ds = (w', .ok r) := by
  intro h
  obtain ⟨w', r, hrun⟩ := h swappingFixer swappingWorld [sampleFinding, sampleFinding]
    uninterrupted_swapping
  have herror := swapping_run
  rw [hrun] at herror
  exact absurd herror (by simp)

end Fixer

end LintMend
