/-
LintMend.Proofs.Service.Exchange — one request and what comes of it.

A request uses up one reaction and leaves itself and some events on the link. Which events, and with
what result, depends on the reaction alone, neither on what was on the link before nor on the method
and the body. All that is known of single requests follows from this and from what a reaction comes
to on a fresh link.

  `reaction`           — what comes of the request after so many others
  `asked`, `fresh`     — a link after a request, and one for a single request
  `request_eq`         — a request, by what its reaction comes to
  `request_requests`, `request_reactions` — what it sends, and what it uses up
-/
import LintMend.Service.Client

namespace LintMend

namespace Link

variable {l l' : Link}

/-! ## 1. Links -/

/-- What comes of the request after so many others. -/
def reaction (l : Link) (n : Nat) : Reaction :=
  l.reactions.getD n refusal

theorem reaction_of_drop (h : l'.reactions = l.reactions.drop 1) (n : Nat) :
    l'.reaction n = l.reaction (n + 1) := by
  simp [reaction, h, List.getD_eq_getElem?_getD]

theorem send_eq (l : Link) (r : Request) : l.send r = ((l.send r).1, l.reaction 0) := by
  cases h : l.reactions <;> simp [send, reaction, h]

/-- What a request leaves on a link, with some events. -/
def asked (l : Link) (r : Request) (events : List Log.Event) : Link :=
  { l with
    reactions := l.reactions.drop 1, requests := l.requests ++ [r], log := l.log ++ events }

/-- A fresh link, with what comes of the first request. -/
def fresh (r : Reaction) : Link :=
  { reactions := [r] }

end Link

open Link (fresh)

namespace ServiceClient

variable {c : ServiceClient} {l : Link} {method path : Text} {limit : Float} {body : Option Json}

/-! ## 2. One request -/

/-- **A request that can be sent has the result, and the events, of its reaction.** -/
theorem request_eq (c : ServiceClient) (l : Link) (method path : Text) (limit : Float)
    (hsend : unsendable? body = none) :
    c.request l method path limit body =
      let alone := c.request (fresh (l.reaction 0)) "GET" path limit none
      (l.asked ⟨method, c.base.below path, body⟩ alone.1.log, alone.2) := by
  have hnone : unsendable? none = none := rfl
  have hfirst : (fresh (l.reaction 0)).reaction 0 = l.reaction 0 := rfl
  unfold request
  simp only [hsend, hnone]
  rw [Link.send_eq l, Link.send_eq (fresh (l.reaction 0)), hfirst]
  cases l.reaction 0 with
  | response status bytes =>
    by_cases hstatus : 200 ≤ status ∧ status ≤ 299
    · simp only [if_pos hstatus, readObject]
      cases Json.readBytes bytes with
      | error reason => rfl
      | ok value => cases value <;> simp [Link.asked, Link.send, fresh]
    · simp only [if_neg hstatus]
      rfl
  | failed failure =>
    cases failure with
    | link fault message =>
      simp only [linkFailure]
      split <;> rfl
    | _ => simp [Link.asked, Link.send, fresh]

theorem request_of_unsendable {failure : Failure} (hsend : unsendable? body = some failure) :
    c.request l method path limit body = (l, .error failure) := by
  unfold request
  simp only [hsend]

/-- A request leaves itself on the link, unless its body cannot be sent, and nothing more. -/
theorem request_requests (c : ServiceClient) (l : Link) (method path : Text) (limit : Float)
    (body : Option Json) : (c.request l method path limit body).1.requests = l.requests ++
      if (unsendable? body).isSome then [] else [⟨method, c.base.below path, body⟩] := by
  cases hbody : unsendable? body with
  | some failure => simp [request_of_unsendable hbody]
  | none =>
    rw [request_eq c l method path limit hbody]
    rfl

/-- A request uses up one reaction. -/
theorem request_reactions (c : ServiceClient) (l : Link) (method path : Text) (limit : Float)
    (hsend : unsendable? body = none) :
    (c.request l method path limit body).1.reactions = l.reactions.drop 1 := by
  rw [request_eq c l method path limit hsend]
  rfl

end ServiceClient

end LintMend
