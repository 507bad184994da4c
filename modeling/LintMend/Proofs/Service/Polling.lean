/-
LintMend.Proofs.Service.Polling — how a poll goes, and how long it waits.

A poll makes the same probe again and again, each time from where the pause after the last failure
left off. So it ends with one of these probes: the first that does not fail in a way that means to
ask again, or the last one that it may make. It can also be run by a controller, which decides after
each attempt whether to rest, to raise the failure or to leave the loop; since an answer returns from
within the loop, the controller never leaves it.

  `Poll.before`     — the state before each probe
  `runFrom_stops`   — the probe that a poll ends with
  `Poll.loop`       — a poll under a controller
  `loop_eq_run`     — it is the same poll, whatever stands behind the loop
  `waitAfter_eq`, `valueOf?_waitAfter` — the waits, and how long they are
-/
import LintMend.Proofs.Decimal.PowerOfTwo
import LintMend.Service.Readiness
import Mathlib.Tactic.IntervalCases
import Mathlib.Tactic.Linarith

namespace LintMend

namespace Poll

variable {σ α : Type} (poll : Poll σ α) (p : Patience) (again : Failure → Bool)

/-! ## 1. Runs -/

/-- Go on after an attempt that failed. -/
def resume (attempt : Nat) : σ × Except Failure α → σ
  | (s, .ok _) => s
  | (s, .error failure) =>
    let wait := p.waitAfter attempt
    poll.pause s (.serviceNotReady attempt failure.kindName failure.message wait) wait

/-- The state after so many further attempts that failed, the first of which has a number. -/
def before : (attempt : Nat) → σ → Nat → σ
  | _, s, 0 => s
  | attempt, s, n + 1 => before (attempt + 1) (poll.resume p attempt (poll.probe s)) n

/-- A result after which to ask again. -/
def Retried (result : Except Failure α) : Prop :=
  ∃ failure, result = .error failure ∧ again failure = true

variable {poll p again}

theorem runFrom_of_retried {left attempt : Nat} {s : σ} (h : Retried again (poll.probe s).2) :
    runFrom poll p again (left + 1) attempt s =
      runFrom poll p again left (attempt + 1) (poll.resume p attempt (poll.probe s)) := by
  obtain ⟨failure, hfailure, hagain⟩ := h
  rw [runFrom]
  generalize poll.probe s = probed at hfailure
  obtain ⟨s', result⟩ := probed
  obtain rfl : result = .error failure := hfailure
  simp only [hagain, if_true]
  rfl

theorem runFrom_of_not_retried {left attempt : Nat} {s : σ}
    (h : ¬ Retried again (poll.probe s).2) : runFrom poll p again left attempt s = poll.probe s := by
  cases left with
  | zero => rfl
  | succ left =>
    rw [runFrom]
    generalize poll.probe s = probed at h
    obtain ⟨s', failure | a⟩ := probed
    · have hagain : again failure = false :=
        eq_false_of_ne_true fun hagain => h ⟨failure, rfl, hagain⟩
      simp only [hagain, Bool.false_eq_true, if_false]
    · rfl

/-- **A poll ends with the first probe that is not to be made again**, or with the last one that is
left. -/
theorem runFrom_stops (poll : Poll σ α) (p : Patience) (again : Failure → Bool) (left : Nat) :
    ∀ (attempt : Nat) (s : σ), ∃ n ≤ left,
      (∀ i < n, Retried again (poll.probe (poll.before p attempt s i)).2) ∧
      (n = left ∨ ¬ Retried again (poll.probe (poll.before p attempt s n)).2) ∧
      runFrom poll p again left attempt s = poll.probe (poll.before p attempt s n) := by
  induction left with
  | zero =>
    intro attempt s
    exact ⟨0, Nat.le_refl 0, fun i hi => absurd hi (Nat.not_lt_zero i), .inl rfl, rfl⟩
  | succ left ih =>
    intro attempt s
    by_cases hfirst : Retried again (poll.probe s).2
    · obtain ⟨n, hle, hbefore, hstop, hrun⟩ :=
        ih (attempt + 1) (poll.resume p attempt (poll.probe s))
      refine ⟨n + 1, Nat.succ_le_succ hle, ?_, ?_, (runFrom_of_retried hfirst).trans hrun⟩
      · intro i hi
        cases i with
        | zero => exact hfirst
        | succ i => exact hbefore i (Nat.lt_of_succ_lt_succ hi)
      · exact hstop.imp_left (congrArg Nat.succ)
    · exact ⟨0, Nat.zero_le _, fun i hi => absurd hi (Nat.not_lt_zero i), .inr hfirst,
        runFrom_of_not_retried hfirst⟩

end Poll

/-! ## 2. Controllers -/

/-- What a controller decides when an attempt is over. -/
inductive Decision where
  /-- Leave the loop. -/
  | leave
  /-- Rest for some seconds, and make another attempt. -/
  | rest (seconds : Float)
  /-- Raise the failure of the attempt. -/
  | raise (failure : Failure)

/-- The decision after an attempt with a failure, or with none. -/
def Patience.decision (p : Patience) (again : Failure → Bool) (attempt : Nat) :
    Option Failure → Decision
  | none => .leave
  | some failure =>
    if again failure then
      if p.attempts ≤ attempt then .raise failure else .rest (p.waitAfter attempt)
    else .raise failure

namespace Poll

variable {σ α : Type} {poll : Poll σ α} {p : Patience} {again : Failure → Bool}

theorem lt_of_decision_rest {attempt : Nat} {outcome : Option Failure} {seconds : Float}
    (h : p.decision again attempt outcome = .rest seconds) : (attempt : Int) < p.attempts := by
  unfold Patience.decision at h
  split at h
  · exact absurd h (by simp)
  · split at h
    · split at h
      · exact absurd h (by simp)
      · next hmore => exact Int.not_le.mp hmore
    · exact absurd h (by simp)

/-- A poll under a controller, with what stands behind the loop. An answer returns from within. -/
def loop (poll : Poll σ α) (p : Patience) (again : Failure → Bool)
    (behind : σ → σ × Except Failure α) (attempt : Nat) (s : σ) : σ × Except Failure α :=
  match poll.probe s with
  | (s, .ok a) => (s, .ok a)
  | (s, .error failure) =>
    match h : p.decision again attempt (some failure) with
    | .leave => behind s
    | .raise failure => (s, .error failure)
    | .rest seconds =>
      let event := Log.Event.serviceNotReady attempt failure.kindName failure.message seconds
      loop poll p again behind (attempt + 1) (poll.pause s event seconds)
termination_by p.attempts.toNat - attempt
decreasing_by
  have hmore := lt_of_decision_rest h
  omega

theorem decision_failed (p : Patience) (again : Failure → Bool) (attempt : Nat)
    (failure : Failure) :
    p.decision again attempt (some failure) =
      if again failure = true ∧ (attempt : Int) < p.attempts then .rest (p.waitAfter attempt)
      else .raise failure := by
  rw [Patience.decision]
  by_cases hagain : again failure = true
  · rw [if_pos hagain]
    by_cases hmore : (attempt : Int) < p.attempts
    · rw [if_neg (Int.not_le.mpr hmore), if_pos ⟨hagain, hmore⟩]
    · rw [if_pos (Int.not_lt.mp hmore), if_neg fun h => hmore h.2]
  · rw [if_neg hagain, if_neg fun h => hagain h.1]

theorem loop_eq (behind : σ → σ × Except Failure α) (attempt : Nat) (s : σ) :
    loop poll p again behind attempt s = match poll.probe s with
      | (s, .ok a) => (s, .ok a)
      | (s, .error failure) =>
        match p.decision again attempt (some failure) with
        | .leave => behind s
        | .raise failure => (s, .error failure)
        | .rest seconds =>
          let event := Log.Event.serviceNotReady attempt failure.kindName failure.message seconds
          loop poll p again behind (attempt + 1) (poll.pause s event seconds) := by
  rw [loop]
  split
  · rfl
  · split <;> simp only [*]

/-- A poll under a controller goes as it does without, from any attempt on. -/
theorem loop_eq_runFrom (behind : σ → σ × Except Failure α) (left : Nat) :
    ∀ (attempt : Nat) (s : σ), p.attempts.toNat - attempt = left →
      loop poll p again behind attempt s = runFrom poll p again left attempt s := by
  induction left with
  | zero =>
    intro attempt s hleft
    have hlast : ¬ (attempt : Int) < p.attempts := by omega
    rw [loop_eq, runFrom]
    obtain ⟨s', failure | a⟩ := poll.probe s
    · simp only [decision_failed, hlast, and_false, if_false]
    · rfl
  | succ left ih =>
    intro attempt s hleft
    have hmore : (attempt : Int) < p.attempts := by omega
    rw [loop_eq, runFrom]
    obtain ⟨s', failure | a⟩ := poll.probe s
    · simp only [decision_failed, hmore, and_true]
      by_cases hagain : again failure = true
      · rw [if_pos hagain, if_pos hagain]
        exact ih (attempt + 1) _ (by omega)
      · rw [if_neg hagain, if_neg hagain]
    · rfl

/-- **A controller runs the same poll, whatever stands behind its loop**: it is never reached. -/
theorem loop_eq_run (poll : Poll σ α) (p : Patience) (again : Failure → Bool)
    (behind : σ → σ × Except Failure α) (s : σ) :
    loop poll p again behind 1 s = poll.run p again s :=
  loop_eq_runFrom behind _ 1 s rfl

end Poll

/-! ## 3. Waits -/

namespace Patience

/-- The waits, doubled from half a second on, until the fifth is the last below ten seconds. -/
theorem waitAfter_eq {attempt : Nat} (hattempt : 1 ≤ attempt) :
    ({} : Patience).waitAfter attempt =
      if attempt ≤ 5 then floatTwoPower (attempt - 2) else 10.0 := by
  have hsmall : ∀ attempt < 54, 1 ≤ attempt → ({} : Patience).waitAfter attempt =
      if attempt ≤ 5 then floatTwoPower (attempt - 2) else 10.0 := by
    decide +kernel
  by_cases hlarge : attempt < 54
  · exact hsmall attempt hlarge hattempt
  · have hten : max (max 0.0 0.5) (10.0 : Float) = 10.0 := by decide +kernel
    rw [if_neg (by omega), waitAfter]
    rcases floatOfInt?_two_pow (by omega : 53 ≤ attempt - 1) with h | ⟨hhigh, h⟩
    · rw [h]
    · have hhalf : (0.5 : Float) = floatTwoPower (-1) := by decide +kernel
      have hproduct : 0.5 * floatTwoPower (attempt - 1 : Nat) =
          floatTwoPower (-1 + (attempt - 1 : Nat)) := by
        rw [hhalf]
        exact floatTwoPower_mul (by omega) (by omega) (by omega)
      have hmore := not_floatTwoPower_le_ten
        (by omega : 4 ≤ -1 + ((attempt - 1 : Nat) : Int)) (by omega)
      have hleast : min (floatTwoPower (-1 + (attempt - 1 : Nat))) (10.0 : Float) = 10.0 :=
        if_neg hmore
      rw [h]
      simp only
      rw [hproduct, hleast, hten]

/-- **How long a wait is**: half a second, doubled after each attempt, up to ten seconds. -/
theorem valueOf?_waitAfter {attempt : Nat} (hattempt : 1 ≤ attempt) :
    valueOf? (({} : Patience).waitAfter attempt) =
      some (max (1 / 2) (min (1 / 2 * 2 ^ (attempt - 1)) 10)) := by
  rw [waitAfter_eq hattempt]
  by_cases hearly : attempt ≤ 5
  · rw [if_pos hearly, valueOf?_twoPower (by omega) (by omega)]
    interval_cases attempt <;> norm_num
  · have hgrown : (2 : ℚ) ^ 5 ≤ 2 ^ (attempt - 1) :=
      pow_le_pow_right₀ (by norm_num) (by omega)
    have hmost : (10 : ℚ) ≤ 1 / 2 * 2 ^ (attempt - 1) := by linarith
    rw [if_neg hearly, valueOf?_ten, min_eq_right hmost]
    norm_num

end Patience

end LintMend
