/-
LintMend.Proofs.Fixing.Counts — a run accounts for every diagnostic once.

Whatever the service answers and whatever others do to the files, a run that returns has one summary
for each file and in it one outcome for each diagnostic of that file. The counters are kept apart
from the outcomes; that they agree is carried through every attempt as `Session.Tallied`. The
service is called once for each outcome that came of a reply, and not at all for the others.

  `AttemptedAll.tallied`, `AttemptedAll.calls` — a row of attempts
  `fixFile_accounted`, `fixFiles_accounted`    — one file, several files
  `run_accounts`                               — the whole run
-/
import LintMend.Proofs.Diagnostic.Groups
import LintMend.Proofs.Fixing.Attempt
import Mathlib

namespace LintMend

variable {σ : Type}

/-! ## 1. Outcomes and their counts -/

/-- An outcome that came of a reply: the file was there and could be read. -/
def Outcome.asked (o : Outcome) : Bool :=
  o.status ≠ .fileNotFound && o.status ≠ .readFailed

theorem Outcome.not_asked_eq (o : Outcome) :
    (!o.asked) = decide (o.status = .fileNotFound ∨ o.status = .readFailed) := by
  cases hs : o.status <;> simp [Outcome.asked, hs]

theorem Outcome.not_succeeded_eq (o : Outcome) :
    (!o.succeeded) = decide (o.status ≠ .applied ∧ o.status ≠ .wouldApply) := by
  simp only [Outcome.succeeded, ← Status.failed_iff]
  cases o.status.succeeded <;> rfl

/-- Every outcome is a fix, a simulated fix or a failure, and only one of them. -/
theorem countP_add (os : List Outcome) :
    os.countP (·.status = .applied) + os.countP (·.status = .wouldApply) +
      os.countP (!·.succeeded) = os.length := by
  induction os with
  | nil => rfl
  | cons o os ih =>
    have hone : (if o.status = .applied then 1 else 0) +
        (if o.status = .wouldApply then 1 else 0) + (if !o.succeeded then 1 else 0) = 1 := by
      cases hs : o.status <;> simp [Outcome.succeeded, hs, Status.succeeded]
    simp only [List.countP_cons, decide_eq_true_eq, List.length_cons]
    omega

/-- The counters of a summary are the numbers of its outcomes of each kind. -/
structure FileSummary.Tallied (summary : FileSummary) : Prop where
  total : summary.total = summary.outcomes.length
  applied : summary.applied = summary.outcomes.countP (·.status = .applied)
  wouldApply : summary.wouldApply = summary.outcomes.countP (·.status = .wouldApply)
  failed : summary.failed = summary.outcomes.countP (!·.succeeded)

theorem FileSummary.Tallied.add {summary : FileSummary} (h : summary.Tallied) :
    summary.applied + summary.wouldApply + summary.failed = summary.total := by
  rw [h.applied, h.wouldApply, h.failed, h.total, countP_add]

theorem FileSummary.tallied_allFailed (path : Text) (ds : List Diagnostic) {status : Status}
    (hstatus : status.succeeded = false) (error : Text) :
    (allFailed path ds status error).Tallied := by
  have hs := Status.failed_iff.mp hstatus
  constructor
  · simp [allFailed]
  · simp [allFailed, List.countP_map, Function.comp_def, hs.1]
  · simp [allFailed, List.countP_map, Function.comp_def, hs.2]
  · simp [allFailed, List.countP_map, Function.comp_def, Outcome.succeeded, hstatus]

/-- Calls of the service answer to outcomes: one call for each outcome that was asked for, in
their order, with a prompt for its diagnostic. -/
def Calls (prompts : List Text) (os : List Outcome) : Prop :=
  List.Forall₂ (fun prompt o => ∃ content, prompt = Prompt.text o.diagnostic content)
    prompts (os.filter (·.asked))

theorem Calls.append {ps qs : List Text} {os us : List Outcome} (h : Calls ps os)
    (h' : Calls qs us) : Calls (ps ++ qs) (os ++ us) := by
  unfold Calls
  rw [List.filter_append]
  exact List.rel_append h h'

theorem Calls.length {ps : List Text} {os : List Outcome} (h : Calls ps os) :
    ps.length = os.length - os.countP (!·.asked) := by
  rw [List.Forall₂.length_eq h, ← List.countP_eq_length_filter,
    List.length_eq_countP_add_countP (·.asked)]
  simp

namespace Fixer

variable {f : Fixer σ} {w w' : World σ} {s s' : Session}

/-! ## 2. One file -/

namespace AttemptedAll

variable {ds : List Diagnostic} {os : List Outcome}

theorem recorded (h : AttemptedAll f w s ds os w' s') :
    s'.path = s.path ∧ s'.outcomes = s.outcomes ++ os ∧ os.map (·.diagnostic) = ds := by
  induction h with
  | done w s => simp
  | next hd _ ih =>
    obtain ⟨hpath, houtcomes, hds⟩ := ih
    have hrec := hd.recorded
    refine ⟨hpath.trans hrec.path, ?_, ?_⟩
    · rw [houtcomes, hrec.outcomes, List.append_assoc, List.singleton_append]
    · rw [List.map_cons, hds, hrec.diagnostic]

theorem tallied (h : AttemptedAll f w s ds os w' s') (hs : s.Tallied) : s'.Tallied := by
  induction h with
  | done => exact hs
  | next hd _ ih => exact ih (hd.tallied hs)

theorem calls (h : AttemptedAll f w s ds os w' s') :
    ∃ ps, w'.prompts = w.prompts ++ ps ∧ Calls ps os := by
  induction h with
  | done w s => exact ⟨[], by simp, .nil⟩
  | @next w w₁ w' s s₁ s' d rest o os hd _ ih =>
    obtain ⟨ps, hps, hcalls⟩ := ih
    rcases hd.sent with ⟨hstatus, hsent⟩ | ⟨hfound, hread, hsent⟩
    · refine ⟨ps, by rw [hps, hsent], ?_⟩
      have hunasked : o.asked = false := by
        dsimp only at hstatus
        simp [Outcome.asked, hstatus]
      rwa [Calls, List.filter_cons_of_neg (by simp [hunasked])]
    · refine ⟨Prompt.text d s.current :: ps, by rw [hps, hsent]; simp, ?_⟩
      have hasked : o.asked = true := by
        dsimp only at hfound hread
        simp [Outcome.asked, hfound, hread]
      rw [Calls, List.filter_cons_of_pos hasked]
      exact .cons ⟨s.current, by rw [← hd.recorded.diagnostic]⟩ hcalls

theorem status_ne (h : AttemptedAll f w s ds os w' s') :
    ∀ o ∈ os, o.status ≠ if f.dryRun then .applied else .wouldApply := by
  induction h with
  | done => simp
  | next hd _ ih =>
    intro o ho
    rcases List.mem_cons.mp ho with rfl | ho
    · exact hd.status_ne
    · exact ih o ho

end AttemptedAll

/-- What a run says about the diagnostics of one file. -/
structure Accounted (f : Fixer σ) (w : World σ) (path : Text) (ds : List Diagnostic)
    (w' : World σ) (summary : FileSummary) : Prop where
  path : summary.path = path
  diagnostics : summary.outcomes.map (·.diagnostic) = ds
  tallied : summary.Tallied
  status : ∀ o ∈ summary.outcomes, o.status ≠ if f.dryRun then .applied else .wouldApply
  calls : ∃ ps, w'.prompts = w.prompts ++ ps ∧ Calls ps summary.outcomes

/-- A file that cannot be read fails all its diagnostics, and nothing is asked. -/
theorem accounted_allFailed {path : Text} {ds : List Diagnostic} {status : Status}
    (hstatus : status = .fileNotFound ∨ status = .readFailed) (error : Text)
    (hprompts : w'.prompts = w.prompts) :
    Accounted f w path ds w' (.allFailed path ds status error) := by
  have hfailed : status.succeeded = false := by rcases hstatus with rfl | rfl <;> rfl
  refine ⟨rfl, ?_, FileSummary.tallied_allFailed path ds hfailed error, ?_,
    [], by simp [hprompts], ?_⟩
  · simp [FileSummary.allFailed, Function.comp_def]
  · intro o ho
    obtain ⟨d, -, rfl⟩ := List.mem_map.mp ho
    rcases hstatus with rfl | rfl <;> split <;> simp
  · have hnone : (FileSummary.allFailed path ds status error).outcomes.filter (·.asked) = [] := by
      rw [List.filter_eq_nil_iff]
      intro o ho
      obtain ⟨d, -, rfl⟩ := List.mem_map.mp ho
      rcases hstatus with rfl | rfl <;> simp [Outcome.asked]
    rw [Calls, hnone]
    exact .nil

theorem accounted_summary {path content : Text} {ds : List Diagnostic} {os : List Outcome}
    (h : AttemptedAll f w (.start path content) ds os w' s') :
    Accounted f w path ds w' s'.summary := by
  obtain ⟨hpath, houtcomes, hds⟩ := h.recorded
  have htallied := h.tallied (Session.tallied_start path content)
  have hos : s'.summary.outcomes = os := houtcomes
  refine ⟨hpath, by rw [hos, hds],
    ⟨rfl, htallied.applied, htallied.wouldApply, htallied.failed⟩, ?_, ?_⟩
  · rw [hos]
    exact h.status_ne
  · rw [hos]
    exact h.calls

theorem prompts_of_readFile {path : Text} {result : Except Failure Text}
    (h : f.readFile w path = (w', result)) : w'.prompts = w.prompts := by
  rw [opened_of_readFile h]
  simp

theorem fixGroup_accounted {path : Text} {ds : List Diagnostic} {summary : FileSummary}
    (h : f.fixGroup w path ds = (w', .ok summary)) : Accounted f w path ds w' summary := by
  rcases hread : f.readFile w path with ⟨opened, failure | content⟩
  · obtain ⟨left, hlogs, hall⟩ := fixGroup_of_unread hread ds
    obtain ⟨rfl, hsummary⟩ := Prod.mk.inj (hall.symm.trans h)
    obtain rfl := Except.ok.inj hsummary
    refine accounted_allFailed ?_ _ (hlogs.prompts.trans (prompts_of_readFile hread))
    cases failure <;> simp [unreadStatus]
  · rw [fixGroup_of_read hread] at h
    rcases hall : f.fixAll (opened.emit (.sessionStarted ds.length)) (.start path content) ds with
      ⟨left, failure | s'⟩
    · simp [hall, Except.map] at h
    rw [hall] at h
    obtain ⟨rfl, hsummary⟩ := Prod.mk.inj h
    obtain rfl := Except.ok.inj hsummary
    obtain ⟨os, hos⟩ := fixAll_eq_ok_iff.mp hall
    obtain ⟨hpath, hds, htallied, hstatus, hcalls⟩ := accounted_summary hos
    refine ⟨hpath, hds, htallied, hstatus, ?_⟩
    rw [← prompts_of_readFile hread]
    exact hcalls

theorem fixFile_accounted {path : Text} {ds : List Diagnostic} {summary : FileSummary}
    (h : f.fixFile w path ds = (w', .ok summary)) : Accounted f w path ds w' summary := by
  rcases hgroup : f.fixGroup (w.bind "file" (.text path)) path ds with ⟨left, failure | found⟩
  · simp [fixFile, hgroup] at h
  rw [fixFile, hgroup] at h
  obtain ⟨rfl, hsummary⟩ := Prod.mk.inj h
  obtain rfl := Except.ok.inj hsummary
  obtain ⟨hpath, hds, htallied, hstatus, hcalls⟩ := fixGroup_accounted hgroup
  exact ⟨hpath, hds, htallied, hstatus, hcalls⟩

/-! ## 3. Several files -/

theorem fixFiles_accounted {groups : List (Text × List Diagnostic)} {files : List FileSummary}
    (h : f.fixFiles w groups = (w', .ok files)) :
    files.map (fun s => (s.path, s.outcomes.map (·.diagnostic))) = groups ∧
    (∀ s ∈ files, s.Tallied ∧
      ∀ o ∈ s.outcomes, o.status ≠ if f.dryRun then .applied else .wouldApply) ∧
    ∃ ps, w'.prompts = w.prompts ++ ps ∧ Calls ps (files.flatMap (·.outcomes)) := by
  rw [fixFiles_eq_ok_iff] at h
  induction h with
  | done => exact ⟨rfl, by simp, [], by simp, .nil⟩
  | next hfile _ ih =>
    obtain ⟨hpath, hds, htallied, hstatus, ps, hps, hcalls⟩ := fixFile_accounted hfile
    obtain ⟨hgroups, hall, qs, hqs, hcalls'⟩ := ih
    refine ⟨by rw [List.map_cons, hgroups, hpath, hds], ?_, ps ++ qs, ?_, ?_⟩
    · intro s hs
      rcases List.mem_cons.mp hs with rfl | hs
      · exact ⟨htallied, hstatus⟩
      · exact hall s hs
    · rw [hqs, hps, List.append_assoc]
    · rw [List.flatMap_cons]
      exact hcalls.append hcalls'

/-! ## 4. The whole run -/

/-- A counter that agrees with the outcomes of each file agrees with those of all files. -/
theorem sum_eq_countP {files : List FileSummary} {counter : FileSummary → Nat}
    {p : Outcome → Bool} (h : ∀ s ∈ files, counter s = s.outcomes.countP p) :
    (files.map counter).foldr (· + ·) 0 = (files.flatMap (·.outcomes)).countP p := by
  have hmap : files.map counter = files.map (fun s => s.outcomes.countP p) :=
    List.map_congr_left h
  rw [hmap, List.countP_flatMap]
  rfl

/-- The counters of a run add up to the outcomes of its files. -/
theorem sums_of_tallied {files : List FileSummary} (h : ∀ s ∈ files, s.Tallied) :
    (RunSummary.mk files).total = (files.flatMap (·.outcomes)).length ∧
    (RunSummary.mk files).applied = (files.flatMap (·.outcomes)).countP (·.status = .applied) ∧
    (RunSummary.mk files).wouldApply =
      (files.flatMap (·.outcomes)).countP (·.status = .wouldApply) ∧
    (RunSummary.mk files).failed = (files.flatMap (·.outcomes)).countP (!·.succeeded) := by
  refine ⟨?_, ?_, ?_, ?_⟩
  · rw [← List.countP_true]
    refine sum_eq_countP fun s hs => ?_
    rw [List.countP_true]
    exact (h s hs).total
  · exact sum_eq_countP fun s hs => (h s hs).applied
  · exact sum_eq_countP fun s hs => (h s hs).wouldApply
  · exact sum_eq_countP fun s hs => (h s hs).failed

/-- The outcomes of all files together are for the diagnostics that were given. -/
theorem diagnostics_perm {ds : List Diagnostic} {files : List FileSummary}
    (h : files.map (fun s => (s.path, s.outcomes.map (·.diagnostic))) =
      Diagnostic.groupByFile ds) :
    ((files.flatMap (·.outcomes)).map (·.diagnostic)).Perm ds := by
  have hflat : (files.flatMap (·.outcomes)).map (·.diagnostic) =
      (Diagnostic.groupByFile ds).flatMap (·.2) := by
    rw [← h, List.map_flatMap, List.flatMap_map]
  rw [hflat]
  exact Diagnostic.groupByFile_perm ds

theorem diagnostics_of_mem {ds : List Diagnostic} {files : List FileSummary}
    (h : files.map (fun s => (s.path, s.outcomes.map (·.diagnostic))) =
      Diagnostic.groupByFile ds) {s : FileSummary} (hs : s ∈ files) :
    s.outcomes.map (·.diagnostic) = ds.filter (·.file = s.path) := by
  have hmem : (s.path, s.outcomes.map (·.diagnostic)) ∈ Diagnostic.groupByFile ds := by
    rw [← h]
    exact List.mem_map_of_mem hs
  rw [Diagnostic.groupByFile_eq] at hmem
  obtain ⟨file, -, heq⟩ := List.mem_map.mp hmem
  obtain ⟨rfl, hds⟩ := Prod.mk.inj heq
  exact hds.symm

/-- The files of a run that returns, in the form in which they were fixed. -/
theorem fixFiles_of_run {ds : List Diagnostic} {r : RunSummary} (h : f.run w ds = (w', .ok r)) :
    ∃ left, f.fixFiles (f.started w ds) (Diagnostic.groupByFile ds) = (left, .ok r.files) ∧
      left.Logs w' := by
  obtain ⟨hlogs, hresult⟩ := run_eq f w ds
  rw [h] at hlogs hresult
  rcases hfiles : f.fixFiles (f.started w ds) (Diagnostic.groupByFile ds) with
    ⟨left, failure | files⟩
  · simp [hfiles, Except.map] at hresult
  rw [hfiles] at hlogs hresult
  obtain rfl : r = ⟨files⟩ := Except.ok.inj hresult
  exact ⟨left, rfl, hlogs⟩

/-- **A run that returns accounts for every diagnostic once**: one summary for each file, one
outcome for each diagnostic, counters that agree with the outcomes, and one call of the service for
each outcome but those of files that were not there or could not be read. -/
theorem run_accounts {ds : List Diagnostic} {r : RunSummary} (h : f.run w ds = (w', .ok r)) :
    r.files.map (·.path) = Diagnostic.files ds ∧
    (∀ s ∈ r.files,
      s.outcomes.map (·.diagnostic) = ds.filter (·.file = s.path) ∧
      s.applied = s.outcomes.countP (·.status = .applied) ∧
      s.wouldApply = s.outcomes.countP (·.status = .wouldApply) ∧
      s.failed = s.outcomes.countP (fun o => o.status ≠ .applied ∧ o.status ≠ .wouldApply) ∧
      s.applied + s.wouldApply + s.failed = s.total ∧ s.total = s.outcomes.length) ∧
    r.applied + r.wouldApply + r.failed = r.total ∧ r.total = ds.length ∧
    r.failures = (r.files.flatMap (·.outcomes)).filter
      (fun o => o.status ≠ .applied ∧ o.status ≠ .wouldApply) ∧
    (if f.dryRun then r.applied = 0 else r.wouldApply = 0) ∧
    ∃ prompts, w'.prompts = w.prompts ++ prompts ∧
      Calls prompts (r.files.flatMap (·.outcomes)) ∧
      prompts.length = r.total - (r.files.flatMap (·.outcomes)).countP
        (fun o => o.status = .fileNotFound ∨ o.status = .readFailed) := by
  obtain ⟨files⟩ := r
  obtain ⟨left, hfiles, hlogs⟩ := fixFiles_of_run h
  obtain ⟨hgroups, hall, prompts, hprompts, hcalls⟩ := fixFiles_accounted hfiles
  obtain ⟨htotal, happlied, hwould, hfailed⟩ := sums_of_tallied fun s hs => (hall s hs).1
  have hlength : (files.flatMap (·.outcomes)).length = ds.length := by
    simpa using (diagnostics_perm hgroups).length_eq
  refine ⟨?_, ?_, ?_, ?_, ?_, ?_, prompts, ?_, hcalls, ?_⟩
  · have hpaths := congrArg (List.map Prod.fst) hgroups
    rw [Diagnostic.groupByFile_eq] at hpaths
    simpa [Function.comp_def] using hpaths
  · intro s hs
    have htallied := (hall s hs).1
    refine ⟨diagnostics_of_mem hgroups hs, htallied.applied, htallied.wouldApply, ?_,
      htallied.add, htallied.total⟩
    simp only [htallied.failed, Outcome.not_succeeded_eq]
  · rw [htotal, happlied, hwould, hfailed, countP_add]
  · rw [htotal, hlength]
  · simp only [RunSummary.failures, List.filter_flatMap, Outcome.not_succeeded_eq]
  · have hnone : ∀ o ∈ files.flatMap (·.outcomes),
        o.status ≠ if f.dryRun then .applied else .wouldApply := by
      intro o ho
      obtain ⟨s, hs, ho⟩ := List.mem_flatMap.mp ho
      exact (hall s hs).2 o ho
    split <;> next hdry =>
      simp only [hdry] at hnone
      simp only [happlied, hwould, List.countP_eq_zero]
      simpa using hnone
  · exact hlogs.prompts.trans hprompts
  · rw [htotal, hcalls.length]
    simp only [Outcome.not_asked_eq]

/-! ## 5. A small run -/

/-- A tree with one file, that holds the letter `a`. -/
def sampleTree : FileTree :=
  ⟨[], [(["A"], .file [0x61] 0o644)]⟩

/-- A finding in that file. -/
def sampleFinding : Diagnostic :=
  ⟨"A", 1, 1, "m", "R", "", by decide, by decide, by decide⟩

/-- What asks a service that reads out prepared replies. -/
def sampleFixer : Fixer (List Reply) :=
  { service := .ofScript "m", files := {} }

/-- A world in which one reply is prepared. -/
def sampleWorld : World (List Reply) :=
  { tree := sampleTree
    service := [{ result := .ok (.object [("response", .string "b")]) }] }

/-- What comes of two findings there: the reply fixes one, and there is none for the other. -/
def sampleSummary : RunSummary :=
  ⟨[⟨"A", 2, 1, 1, 0,
    [⟨sampleFinding, .applied, none⟩, ⟨sampleFinding, .error, some "no more replies"⟩]⟩]⟩

set_option maxRecDepth 8000 in
theorem run_sample : (sampleFixer.run sampleWorld [sampleFinding, sampleFinding]).2 =
    .ok sampleSummary := by
  cbv

theorem run_accounts_sample : ∃ w',
    sampleFixer.run sampleWorld [sampleFinding, sampleFinding] = (w', .ok sampleSummary) ∧
    sampleSummary.applied + sampleSummary.wouldApply + sampleSummary.failed = 2 ∧
    ∃ prompts, w'.prompts = [] ++ prompts ∧ prompts.length = 2 := by
  have hrun : sampleFixer.run sampleWorld [sampleFinding, sampleFinding] =
      ((sampleFixer.run sampleWorld [sampleFinding, sampleFinding]).1, .ok sampleSummary) :=
    Prod.ext rfl run_sample
  obtain ⟨-, -, hadd, htotal, -, -, prompts, hprompts, -, hlength⟩ := run_accounts hrun
  exact ⟨_, hrun, hadd.trans htotal, prompts, hprompts, hlength⟩

end Fixer

end LintMend
