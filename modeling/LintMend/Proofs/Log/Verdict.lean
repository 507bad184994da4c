/-
LintMend.Proofs.Log.Verdict — what a log says about diagnostics.

A run tells of each diagnostic what became of it, with a running count of those that ended the same
way. The other events of a run frame this: where the run starts and where it is complete, and the
summary at the end of a file. All else that is logged is an aside. A list of records is truthful
about some outcomes if it has one verdict for each of them, in order, and each count is right where
it stands.

  `Verdict`, `Event.verdict?` — what is told of one diagnostic
  `Event.IsAside`             — events that tell of none, and frame nothing
  `Truthful`                  — records that tell the truth about outcomes
  `tell`, `truthful_of_tell`  — the verdicts on outcomes, with counts
-/
import LintMend.Fixing.Outcome
import LintMend.Log.Event
import Mathlib.Data.List.Forall2

namespace LintMend

namespace Log

/-! ## 1. Events -/

/-- How an attempt can end, as far as it is counted. -/
inductive Ending where
  | applied
  | simulated
  | failed
  deriving DecidableEq, Repr

/-- What is told of one diagnostic. -/
structure Verdict where
  ending : Ending
  rule : Text
  line : Nat
  /-- The status and the error of an attempt that failed. -/
  reason : Option (Text × Text)
  /-- The number of attempts that ended the same way so far. -/
  count : Nat

/-- The verdict in an event, if it is one. -/
def Event.verdict? : Event → Option Verdict
  | .fixApplied rule line applied => some ⟨.applied, rule, line, none, applied⟩
  | .fixSimulated rule line _ wouldApply => some ⟨.simulated, rule, line, none, wouldApply⟩
  | .fixFailed rule line status error failed =>
    some ⟨.failed, rule, line, some (status, error), failed⟩
  | _ => none

/-- An event that frames verdicts: the start and the end of a run, and the end of a file. -/
def Event.IsFrame : Event → Prop
  | .runStarting .. | .runComplete .. | .fileSummary .. => True
  | _ => False

/-- An event that tells of no diagnostic and frames nothing. -/
def Event.IsAside (e : Event) : Prop :=
  e.verdict? = none ∧ ¬ e.IsFrame

/-- The verdicts in some records. -/
def verdicts (records : List Record) : List Verdict :=
  records.filterMap (·.event.verdict?)

theorem verdicts_append (records more : List Record) :
    verdicts (records ++ more) = verdicts records ++ verdicts more :=
  List.filterMap_append

end Log

/-! ## 2. Outcomes -/

/-- How an attempt with an outcome has ended. -/
def Outcome.ending (o : Outcome) : Log.Ending :=
  match o.status with
  | .applied => .applied
  | .wouldApply => .simulated
  | _ => .failed

/-- The verdict on an outcome, with a count. -/
def Outcome.verdict (o : Outcome) (count : Nat) : Log.Verdict where
  ending := o.ending
  rule := o.diagnostic.rule
  line := o.diagnostic.line
  reason := o.error.map fun error => (o.status.name, error)
  count := count

namespace Log

/-- Records that tell the truth about some outcomes. -/
structure Truthful (records : List Record) (os : List Outcome) : Prop where
  /-- There is one verdict for each outcome, in order. -/
  told : List.Forall₂ (fun v o => v = o.verdict v.count) (verdicts records) os
  /-- Each count is the number of verdicts so far with the same ending, itself included. -/
  counted : ∀ before r after v, records = before ++ r :: after → r.event.verdict? = some v →
    v.count = (verdicts before).countP (·.ending = v.ending) + 1

/-- Truthful records tell how each outcome ended. -/
theorem Truthful.endings {records : List Record} {os : List Outcome} (h : Truthful records os) :
    (verdicts records).map (·.ending) = os.map (·.ending) := by
  obtain ⟨htold, -⟩ := h
  generalize verdicts records = told at htold
  induction htold with
  | nil => rfl
  | cons hfirst _ ih => rw [List.map_cons, List.map_cons, ih, hfirst, Outcome.verdict]

/-- The verdicts on outcomes, with their counts, after others. -/
def tell (earlier : List Outcome) : List Outcome → List Verdict
  | [] => []
  | o :: os =>
    o.verdict (earlier.countP (·.ending = o.ending) + 1) :: tell (earlier ++ [o]) os

theorem forall₂_tell (earlier os : List Outcome) :
    List.Forall₂ (fun v o => v = o.verdict v.count) (tell earlier os) os := by
  induction os generalizing earlier with
  | nil => exact .nil
  | cons o os ih => exact .cons rfl (ih _)

/-- The count of a verdict goes on from what was before. -/
theorem count_of_tell {earlier os : List Outcome} {before after : List Verdict} {v : Verdict}
    (h : tell earlier os = before ++ v :: after) :
    v.count = earlier.countP (·.ending = v.ending) + before.countP (·.ending = v.ending) + 1 := by
  induction os generalizing earlier before with
  | nil => exact absurd h (by simp [tell])
  | cons o os ih =>
    cases before with
    | nil =>
      obtain ⟨rfl, -⟩ := List.cons.inj h
      rfl
    | cons first before =>
      obtain ⟨rfl, hrest⟩ := List.cons.inj h
      rw [ih hrest, List.countP_append, List.countP_cons, List.countP_cons]
      simp only [List.countP_nil]
      show _ + (0 + if decide (o.ending = v.ending) then 1 else 0) + _ + 1 = _ +
        (_ + if decide (o.ending = v.ending) then 1 else 0) + 1
      omega

/-- **Records whose verdicts are those on some outcomes are truthful about them.** -/
theorem truthful_of_tell {records : List Record} {os : List Outcome}
    (h : verdicts records = tell [] os) : Truthful records os := by
  constructor
  · rw [h]
    exact forall₂_tell [] os
  · rintro before r after v rfl hv
    have hhere : verdicts (r :: after) = v :: verdicts after := List.filterMap_cons_some hv
    have hsplit : tell [] os = verdicts before ++ v :: verdicts after := by
      rw [← h, verdicts_append, hhere]
    rw [count_of_tell hsplit, List.countP_nil, Nat.zero_add]

end Log

end LintMend
