/-
LintMend.Service.Deadline — operations that may only take so long.

  `withDeadline` — the result of an operation, or a failure if time runs out
-/
import LintMend.Failure
import LintMend.Log.Event

namespace LintMend

/-- The text for an operation that takes too long, unless another is given. -/
def deadlineMessage (shownLimit : Text) (message : Option Text) : Text :=
  match message with
  | some (c :: rest) => c :: rest
  | _ => "Operation timed out after " ++ shownLimit ++ "s"

/-- The result of an operation, which is `none` if it never ends. Without any time for it, even
an operation that ends is too late. -/
def withDeadline {α : Type} (limit : Float) (shownLimit : Text) (message : Option Text)
    (result : Option (Except Failure α)) : List Log.Event × Except Failure α :=
  let late : List Log.Event × Except Failure α :=
    ([.operationTimedOut limit], .error (.timedOut (deadlineMessage shownLimit message)))
  match result with
  | none => late
  | some r => if limit ≤ 0.0 then late else ([], r)

end LintMend
