/-
LintMend.Service.Link — the connection to a service.

A link holds what the other side will do in answer to requests, in order; when that is used up,
connections are refused. It remembers what was sent, how long was waited, and what happened.

  `Request`, `Reaction` — what is sent, and what comes of it
  `Link`                — a connection; `Link.send`, `Link.rest`
-/
import LintMend.Failure
import LintMend.Json.Basic
import LintMend.Log.Event

namespace LintMend

/-- A request. -/
structure Request where
  method : Text
  address : Text
  body : Option Json := none
  deriving Repr

/-- What comes of a request. -/
inductive Reaction where
  | response (status : Int) (body : Bytes)
  /-- The connection fails, or the operator stops the program. -/
  | failed (failure : Failure)
  deriving DecidableEq, Repr

/-- A connection to a service. -/
structure Link where
  reactions : List Reaction
  requests : List Request := []
  /-- How long was waited between requests, in seconds. -/
  waits : List Float := []
  log : List Log.Event := []

namespace Link

/-- The reaction when nothing else is left. -/
def refusal : Reaction :=
  .failed (.link .connect "connection refused")

/-- Log an event. -/
def emit (l : Link) (e : Log.Event) : Link :=
  { l with log := l.log ++ [e] }

/-- Send a request. -/
def send (l : Link) (r : Request) : Link × Reaction :=
  ({ l with reactions := l.reactions.drop 1, requests := l.requests ++ [r] },
    l.reactions.headD refusal)

/-- Wait for some seconds. -/
def rest (l : Link) (seconds : Float) : Link :=
  { l with waits := l.waits ++ [seconds] }

end Link

end LintMend
