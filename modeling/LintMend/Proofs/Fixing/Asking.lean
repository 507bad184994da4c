/-
LintMend.Proofs.Fixing.Asking — a run touches its service by asking alone.

Whatever becomes of a run, its prompts are kept in the order in which they were sent, and the state
in which it leaves the service is the one that these prompts make of the state in which it found it.
Reading, writing, logging and recording leave the service alone, so the only step there is to count
is the request of an attempt.

  `Consulted`               — prompts were sent, and the service is as they leave it
  `consulted_fixDiagnostic` — one attempt
  `consulted_run`           — a whole run
-/
import LintMend.Proofs.Fixing.Containment

namespace LintMend

variable {σ : Type}

theorem Service.after_append (svc : Service σ) (state : σ) (first second : List Text) :
    svc.after state (first ++ second) = svc.after (svc.after state first) second :=
  List.foldl_append

namespace Fixer

variable {f : Fixer σ} {w w' w'' : World σ} {s : Session} {d : Diagnostic}

/-! ## 1. Prompts and what they make of a service -/

/-- A world has gone on to another: some prompts were sent, and the service is as these leave it. -/
def Consulted (f : Fixer σ) (w w' : World σ) : Prop :=
  ∃ sent, w'.prompts = w.prompts ++ sent ∧ w'.service = f.service.after w.service sent

namespace Consulted

/-- A world in which nothing more was asked. -/
theorem of_same (hprompts : w'.prompts = w.prompts) (hservice : w'.service = w.service) :
    f.Consulted w w' :=
  ⟨[], by rw [hprompts, List.append_nil], hservice⟩

theorem refl (w : World σ) : f.Consulted w w :=
  of_same rfl rfl

theorem trans (h : f.Consulted w w') (h' : f.Consulted w' w'') : f.Consulted w w'' := by
  obtain ⟨sent, hprompts, hservice⟩ := h
  obtain ⟨sent', hprompts', hservice'⟩ := h'
  refine ⟨sent ++ sent', ?_, ?_⟩
  · rw [hprompts', hprompts, List.append_assoc]
  · rw [hservice', hservice, Service.after_append]

theorem logs (h : f.Consulted w w') (hlogs : w'.Logs w'') : f.Consulted w w'' :=
  h.trans (of_same hlogs.prompts hlogs.service)

end Consulted

theorem consulted_othersAct (w : World σ) : f.Consulted w w.othersAct :=
  .of_same w.othersAct_prompts w.othersAct_service

/-- A request sends one prompt. -/
theorem consulted_request {result : Except Failure Text}
    (h : f.request w.othersAct s d = (w', result)) : f.Consulted w w' := by
  have hasked := asked_of_request h
  have hrequest : f.Consulted w.othersAct w' := ⟨[_], hasked.prompts, hasked.service⟩
  exact (consulted_othersAct w).trans hrequest

theorem consulted_writeContent {path content : Text} {result : Except Failure Unit}
    (h : f.writeContent w path content = (w', result)) : f.Consulted w w' := by
  have hwrote := wrote_of_writeContent h
  exact .of_same hwrote.prompts hwrote.service

/-! ## 2. Attempts -/

theorem Attempted.consulted {r : World σ × Session × Outcome} (h : Attempted f w s d r) :
    f.Consulted w r.1 := by
  cases h with
  | missing => exact (consulted_othersAct w).logs (World.logs_emit _ _)
  | refused _ hasked => exact (consulted_request hasked).logs (logs_failAnswer ..)
  | simulated _ hasked => exact (consulted_request hasked).logs (World.logs_emit _ _)
  | unwritten _ hasked _ hleft =>
    have hwritten := (consulted_request hasked).trans (consulted_writeContent hleft)
    exact hwritten.logs (logs_failWrite ..)
  | written _ hasked _ hleft =>
    have hwritten := (consulted_request hasked).trans (consulted_writeContent hleft)
    exact hwritten.logs (World.logs_emit _ _)

/-- **An attempt touches the service by asking alone**, however it ends. -/
theorem consulted_fixDiagnostic (f : Fixer σ) (w : World σ) (s : Session) (d : Diagnostic) :
    f.Consulted w (f.fixDiagnostic w s d).1 := by
  rcases fixDiagnostic_cases f w s d with ⟨e, -, h⟩ | ⟨left, hstopped, h⟩ | ⟨r, hr⟩
  · rw [h]
    exact consulted_othersAct w
  · rw [h]
    cases hstopped with
    | asking hasked => exact consulted_request hasked
    | writing hasked hleft => exact (consulted_request hasked).trans (consulted_writeContent hleft)
  · rw [hr.fixDiagnostic_eq]
    exact hr.consulted

theorem consulted_fixAll (f : Fixer σ) (ds : List Diagnostic) :
    ∀ (w : World σ) (s : Session), f.Consulted w (f.fixAll w s ds).1 :=
  fixAll_across .refl .trans (consulted_fixDiagnostic f) ds

/-! ## 3. Files and runs -/

theorem consulted_fixGroup (f : Fixer σ) (w : World σ) (path : Text) (ds : List Diagnostic) :
    f.Consulted w (f.fixGroup w path ds).1 := by
  have hopened := (consulted_othersAct (f := f) w).trans (consulted_othersAct w.othersAct)
  rcases hread : f.readFile w path with ⟨opened, failure | content⟩
  · obtain ⟨left, hlogs, hgroup⟩ := fixGroup_of_unread hread ds
    obtain rfl := opened_of_readFile hread
    rw [hgroup]
    exact hopened.logs hlogs
  · rw [fixGroup_of_read hread]
    obtain rfl := opened_of_readFile hread
    exact (hopened.logs (World.logs_emit _ _)).trans (consulted_fixAll f ds _ _)

theorem consulted_fixFile (f : Fixer σ) (w : World σ) (path : Text) (ds : List Diagnostic) :
    f.Consulted w (f.fixFile w path ds).1 := by
  have hbound : f.Consulted w (w.bind "file" (.text path)) := .of_same rfl rfl
  have hgroup := hbound.trans (consulted_fixGroup f (w.bind "file" (.text path)) path ds)
  unfold fixFile
  split
  · next h =>
    rw [h] at hgroup
    exact hgroup.trans (.of_same rfl rfl)
  · next h =>
    rw [h] at hgroup
    exact hgroup.trans (.of_same rfl rfl)

theorem consulted_fixFiles (f : Fixer σ) (groups : List (Text × List Diagnostic)) :
    ∀ w : World σ, f.Consulted w (f.fixFiles w groups).1 :=
  fixFiles_across .refl .trans (consulted_fixFile f) groups

/-- **A run touches its service by asking alone**: the state in which it leaves the service is what
the prompts that it sent make of the one before. -/
theorem consulted_run (f : Fixer σ) (w : World σ) (ds : List Diagnostic) :
    f.Consulted w (f.run w ds).1 := by
  have hstarted : f.Consulted w (f.started w ds) := (Consulted.refl w).logs (World.logs_emit w _)
  have hfiles := hstarted.trans (consulted_fixFiles f (Diagnostic.groupByFile ds) _)
  exact hfiles.logs (run_eq f w ds).1

end Fixer

end LintMend
