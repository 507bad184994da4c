/-
LintMend.Proofs.Fixing.Context — the log context comes back.

While the diagnostics of a file are fixed, its path is bound in the log context under `file`. An
attempt leaves the context alone, whichever way it ends, also if it ends the run. So the context is
restored after each file if the name was free before.

  `erase_set`             — binding a name that is free and letting it go again
  `context_fixDiagnostic` — one attempt
  `context_fixFile`, `context_fixFiles` — files, with a summary or a failure
-/
import LintMend.Proofs.Fixing.Attempt

namespace LintMend

variable {σ : Type}

namespace Log

/-! ## 1. Fields -/

namespace Fields

variable {name : Text} {fields : Fields}

theorem get?_set (name : Text) (value : Value) (fields : Fields) :
    get? name (set name value fields) = some value := by
  induction fields with
  | nil => simp [set, get?]
  | cons field rest ih =>
    obtain ⟨n, v⟩ := field
    rw [set]
    split
    · simp [get?]
    · next hne =>
      rw [get?, List.find?_cons_of_neg (by simpa using hne)]
      exact ih

theorem ne_of_get?_eq_none (h : get? name fields = none) : ∀ field ∈ fields, field.1 ≠ name := by
  simpa [get?, List.find?_eq_none] using h

/-- **Binding a name that is free and letting it go again** changes nothing. -/
theorem erase_set (h : get? name fields = none) (value : Value) :
    erase name (set name value fields) = fields := by
  have hfree := ne_of_get?_eq_none h
  clear h
  induction fields with
  | nil => simp [set, erase]
  | cons field rest ih =>
    obtain ⟨hfirst, hrest⟩ := List.forall_mem_cons.mp hfree
    rw [set, if_neg hfirst, erase, List.filter_cons_of_pos (by simpa using hfirst)]
    exact congrArg (field :: ·) (ih hrest)

end Fields

end Log

namespace Fixer

variable {f : Fixer σ} {w w' : World σ} {s : Session} {d : Diagnostic}

/-! ## 2. Attempts -/

theorem context_othersAct (w : World σ) : w.othersAct.context = w.context := by
  unfold World.othersAct
  split <;> rfl

theorem context_of_request {result : Except Failure Text}
    (h : f.request w.othersAct s d = (w', result)) : w'.context = w.context := by
  have hrequest : (f.request w.othersAct s d).1.context = w.othersAct.context := rfl
  rw [h] at hrequest
  exact hrequest.trans (context_othersAct w)

theorem context_of_writeContent {path content : Text} {result : Except Failure Unit}
    (h : f.writeContent w path content = (w', result)) : w'.context = w.context := by
  unfold writeContent at h
  split at h
  · obtain ⟨rfl, -⟩ := Prod.mk.inj h
    rfl
  · obtain ⟨rfl, -⟩ := Prod.mk.inj h
    exact context_othersAct w

theorem context_failAnswer (f : Fixer σ) (w : World σ) (s : Session) (d : Diagnostic)
    (failure : Failure) : (f.failAnswer w s d failure).1.context = w.context := by
  simp only [failAnswer]
  split <;> rfl

theorem context_failWrite (f : Fixer σ) (w : World σ) (s : Session) (d : Diagnostic)
    (failure : Failure) : (f.failWrite w s d failure).1.context = w.context := by
  simp only [failWrite]
  split <;> rfl

/-- An attempt leaves the context alone, however it ends. -/
theorem context_fixDiagnostic (f : Fixer σ) (w : World σ) (s : Session) (d : Diagnostic) :
    (f.fixDiagnostic w s d).1.context = w.context := by
  rcases fixDiagnostic_cases f w s d with ⟨e, -, h⟩ | ⟨left, hstopped, h⟩ | ⟨r, hr⟩
  · rw [h]
    exact context_othersAct w
  · rw [h]
    cases hstopped with
    | asking hasked => exact context_of_request hasked
    | writing hasked hleft =>
      exact (context_of_writeContent hleft).trans (context_of_request hasked)
  · rw [hr.fixDiagnostic_eq]
    cases hr with
    | missing => exact context_othersAct w
    | refused _ hasked => exact (context_failAnswer f _ s d _).trans (context_of_request hasked)
    | @simulated asked content _ hasked =>
      have hsimulated : (simulate asked s d content).1.context = asked.context := rfl
      exact hsimulated.trans (context_of_request hasked)
    | unwritten _ hasked _ hleft =>
      exact (context_failWrite f _ s d _).trans
        ((context_of_writeContent hleft).trans (context_of_request hasked))
    | @written _ left content _ hasked _ hleft =>
      have happlied : (apply left s d content).1.context = left.context := rfl
      exact happlied.trans ((context_of_writeContent hleft).trans (context_of_request hasked))

theorem context_fixAll (f : Fixer σ) (ds : List Diagnostic) :
    ∀ (w : World σ) (s : Session), (f.fixAll w s ds).1.context = w.context :=
  fixAll_across (R := fun w w' => w'.context = w.context) (fun _ => rfl)
    (fun h h' => h'.trans h) (context_fixDiagnostic f) ds

theorem context_fixGroup (f : Fixer σ) (w : World σ) (path : Text) (ds : List Diagnostic) :
    (f.fixGroup w path ds).1.context = w.context := by
  have hopened : (f.readFile w path).1.context = w.context :=
    (context_othersAct w.othersAct).trans (context_othersAct w)
  rcases hread : f.readFile w path with ⟨opened, failure | content⟩
  · rw [hread] at hopened
    obtain ⟨e, -, hgroup⟩ := fixGroup_reports_unread hread ds
    rw [hgroup]
    exact hopened
  · rw [hread] at hopened
    rw [fixGroup_of_read hread]
    exact (context_fixAll f ds _ _).trans hopened

/-! ## 3. Files -/

/-- **Fixing a file restores the context**, whether it ends with a summary or a failure. -/
theorem context_fixFile (f : Fixer σ) {w : World σ} (hfree : w.context.get? "file" = none)
    (path : Text) (ds : List Diagnostic) : (f.fixFile w path ds).1.context = w.context := by
  have hgroup := context_fixGroup f (w.bind "file" (.text path)) path ds
  have hrestored := Log.Fields.erase_set hfree (.text path)
  unfold fixFile
  split
  · next h =>
    rw [h] at hgroup
    exact (congrArg (Log.Fields.erase "file") hgroup).trans hrestored
  · next h =>
    rw [h] at hgroup
    exact (congrArg (Log.Fields.erase "file") hgroup).trans hrestored

theorem context_fixFiles (f : Fixer σ) (groups : List (Text × List Diagnostic)) :
    ∀ w : World σ, w.context.get? "file" = none →
      (f.fixFiles w groups).1.context = w.context := by
  refine fixFiles_across
    (R := fun w w' => w.context.get? "file" = none → w'.context = w.context) (fun _ _ => rfl) ?_
    (fun w path ds hfree => context_fixFile f hfree path ds) groups
  intro w w' w'' h h' hfree
  rw [h' (by rw [h hfree]; exact hfree), h hfree]

end Fixer

end LintMend
