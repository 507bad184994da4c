/-
LintMend.Service.Readiness — asking again until an answer comes.

A probe that fails because the service is not ready is made again, up to a number of attempts.
The wait between two probes starts at the least one and doubles, up to the greatest. Any other
failure ends the poll at once, and the last failure is the one that is reported.

  `Poll`        — a probe, and what happens before it is made again
  `Poll.run`    — the poll
  `waitAfter`   — the wait after an attempt
-/
import LintMend.Failure
import LintMend.Log.Event

namespace LintMend

/-- How often and how patiently to ask. -/
structure Patience where
  attempts : Int := 5
  /-- The least wait, in seconds. -/
  least : Float := 0.5
  /-- The greatest wait, in seconds. -/
  most : Float := 10.0

namespace Patience

/-- The wait after an attempt, the first of which has the number 1. -/
def waitAfter (p : Patience) (attempt : Nat) : Float :=
  match floatOfInt? (Nat.pow 2 (attempt - 1)) with
  | none => p.most
  | some factor => max (max 0.0 p.least) (min (p.least * factor) p.most)

end Patience

/-- A failure that means that a service is not ready yet. -/
def Failure.meansNotReady : Failure → Bool
  | .serviceUnavailable _ => true
  | .link fault _ => fault.isTimeout || fault.isNetwork
  | _ => false

/-- What is polled: a probe, and a pause for some seconds after an event. -/
structure Poll (σ α : Type) where
  probe : σ → σ × Except Failure α
  pause : σ → Log.Event → Float → σ

namespace Poll

variable {σ α : Type}

/-- Probe until the number of probes that are left is used up. -/
def runFrom (poll : Poll σ α) (p : Patience) (again : Failure → Bool) :
    (left attempt : Nat) → σ → σ × Except Failure α
  | 0, _, s => poll.probe s
  | left + 1, attempt, s =>
    match poll.probe s with
    | (s, .ok a) => (s, .ok a)
    | (s, .error failure) =>
      if again failure then
        let wait := p.waitAfter attempt
        let event := Log.Event.serviceNotReady attempt failure.kindName failure.message wait
        runFrom poll p again left (attempt + 1) (poll.pause s event wait)
      else (s, .error failure)

/-- Probe at least once, and as often as there are attempts. -/
def run (poll : Poll σ α) (p : Patience) (again : Failure → Bool) (s : σ) :
    σ × Except Failure α :=
  runFrom poll p again (p.attempts.toNat - 1) 1 s

end Poll

end LintMend
