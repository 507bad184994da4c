/-
LintMend.Reply.Envelope — the reply of the generation service.

A reply is an object whose `response` holds the generated text; `model` and `done` may be given
or left out, other fields do not matter.

  `Envelope.check` — the envelope of a JSON value
  `replyContent`   — the file content in a reply, empty if nothing usable is left
-/
import LintMend.Failure
import LintMend.Log.Event
import LintMend.Reply.Fence
import LintMend.Validation.Coerce

namespace LintMend

/-- The part of a reply that matters. -/
structure Envelope where
  response : Text
  model : Option Text
  done : Option Bool
  deriving DecidableEq, Repr

namespace Envelope

open Validation

/-- The generated text, which every reply must hold. -/
def readResponse (fields : List (Text × Json)) : Reading Text :=
  match Json.lookup "response" fields with
  | none => .error .missing
  | some value => readText (.ofJson value)

/-- The name of the model, if given. -/
def readModel (fields : List (Text × Json)) : Reading (Option Text) :=
  match Json.lookup "model" fields with
  | none => .ok none
  | some .null => .ok none
  | some value => (readText (.ofJson value)).map some

/-- Whether generation ran to its end, if given. -/
def readDone (fields : List (Text × Json)) : Reading (Option Bool) :=
  match Json.lookup "done" fields with
  | none => .ok none
  | some .null => .ok none
  | some value => (readBool (.ofJson value)).map some

/-- The problem with a field, if there is one. -/
def problemOf {α : Type} (name : Text) : Reading α → List Problem
  | .ok _ => []
  | .error complaint => [⟨[.field name], complaint⟩]

/-- The envelope of an object, or the problems of its fields in order. -/
def ofFields (fields : List (Text × Json)) : Except (List Problem) Envelope :=
  match readResponse fields, readModel fields, readDone fields with
  | .ok response, .ok model, .ok done => .ok ⟨response, model, done⟩
  | response, model, done =>
    .error (problemOf "response" response ++ problemOf "model" model ++ problemOf "done" done)

/-- The envelope of a JSON value; a refused object is logged with its field names in order. -/
def check (value : Json) : List Log.Event × Except Failure Envelope :=
  match value with
  | .object fields =>
    match ofFields fields with
    | .ok envelope => ([], .ok envelope)
    | .error problems =>
      let refusal : Refusal := ⟨"GenerateEnvelope", problems⟩
      ([.envelopeRejected refusal.headline (Text.sort (fields.map (·.1)))],
        .error (.malformedReply
          ("Response envelope failed validation: " ++ refusal.headline) (some refusal)))
  | other =>
    ([], .error (.malformedReply ("Expected a JSON object, got " ++ other.kindName) none))

end Envelope

/-- The file content in a reply; callers take empty content for a failed request. -/
def replyContent (value : Json) : List Log.Event × Except Failure Text :=
  match Envelope.check value with
  | (events, .ok envelope) => (events, .ok (Fence.stripFences envelope.response))
  | (events, .error failure) => (events, .error failure)

end LintMend
