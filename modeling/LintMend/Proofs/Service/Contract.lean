/-
LintMend.Proofs.Service.Contract — what the client of the service promises, and where it breaks it.

Whatever comes of a request, an operation of the client is meant to end with a value of its kind, or
with the failure that the service is unavailable or its reply malformed. Asking for text and for the
version keep that promise (a prompt that holds no text apart). The two operations that go through the
list of installed models do not: they trust the shape of what the reply has under `models`. A number
there cannot be gone through, a name that is no text is handed on, and one that is a list or an object
cannot be compared. The health checks contain only foreseen failures, so such a reply ends them.

  `Reaction.object?`          — the object that a reaction brings
  `Keeps`                     — a result within the promise
  `request_answered`          — one request
  `models_keeps_iff`, `hasModel_keeps_iff`, `reports_iff` — the shapes that break the promise
  `keeps_contract_iff`        — all operations
  `contract_broken`           — a reply that breaks it three times
-/
import LintMend.Proofs.Service.Exchange
import LintMend.Proofs.Service.Sending
import LintMend.Proofs.Utf8.RoundTrip
import LintMend.Service.Health

namespace LintMend

/-! ## 1. What comes of requests -/

/-- The failures that an operation of the client may end with. -/
def Failure.OfService : Failure → Prop
  | .serviceUnavailable _ => True
  | .malformedReply .. => True
  | _ => False

/-- A result within the promise: a value of the declared kind, or a failure of the service. -/
def Keeps {α : Type} (declared : α → Prop) : Except Failure α → Prop
  | .ok a => declared a
  | .error failure => failure.OfService

namespace Reaction

/-- What can come of a request: a response with any status and body, or a failed connection. -/
def OfLink (r : Reaction) : Prop :=
  ∀ failure, r = .failed failure → ∃ fault message, failure = .link fault message

/-- The object in the body of a response that is a success. -/
def object? : Reaction → Option (List (Text × Json))
  | .response status bytes =>
    if 200 ≤ status ∧ status ≤ 299 then
      match Json.readBytes bytes with
      | .ok (.object fields) => some fields
      | _ => none
    else none
  | .failed _ => none

end Reaction

namespace Link

theorem reaction_ofLink {l : Link} (h : ∀ r ∈ l.reactions, r.OfLink) (n : Nat) :
    (l.reaction n).OfLink := by
  rw [reaction, List.getD_eq_getElem?_getD]
  cases hn : l.reactions[n]? with
  | some r => exact h r (List.mem_of_getElem? hn)
  | none =>
    intro failure hfailure
    exact ⟨_, _, (Reaction.failed.inj hfailure).symm⟩

end Link

namespace ServiceClient

variable {c : ServiceClient} {l : Link} {path : Text}

/-! ## 2. One request -/

/-- The result of a request is that of its reaction: its object, or, if it brings none, a failure of
the service. -/
def AnsweredBy (r : Reaction) (result : Except Failure (List (Text × Json))) : Prop :=
  (∃ fields, r.object? = some fields ∧ result = .ok fields) ∨
    (r.object? = none ∧ ∃ failure, failure.OfService ∧ result = .error failure)

theorem AnsweredBy.object {r : Reaction} {fields : List (Text × Json)}
    (h : r.object? = some fields) : AnsweredBy r (.ok fields) :=
  Or.inl ⟨fields, h, rfl⟩

theorem AnsweredBy.failed {r : Reaction} {failure : Failure} (h : r.object? = none)
    (hfailure : failure.OfService) : AnsweredBy r (.error failure) :=
  Or.inr ⟨h, failure, hfailure, rfl⟩

theorem linkFailure_ofService (limit : Float) (fault : LinkFault) (message : Text) :
    (c.linkFailure l path limit fault message).2.OfService := by
  unfold linkFailure
  split <;> exact trivial

/-- The object in a body, or a reply that is malformed. -/
theorem readObject_answered {status : Int} {bytes : Bytes} (h : 200 ≤ status ∧ status ≤ 299) :
    AnsweredBy (.response status bytes) (readObject l path bytes).2 := by
  have hobject : (Reaction.response status bytes).object? = match Json.readBytes bytes with
      | .ok (.object fields) => some fields
      | _ => none := if_pos h
  unfold readObject
  cases hread : Json.readBytes bytes with
  | error reason => exact .failed (by rw [hobject, hread]) trivial
  | ok value =>
    cases value with
    | object fields => exact .object (by rw [hobject, hread])
    | _ => exact .failed (by rw [hobject, hread]) trivial

/-- **A request that can be sent has the object of its reaction for a result, or fails as the
service does.** -/
theorem request_answered (c : ServiceClient) (l : Link) (method path : Text) (limit : Float)
    (body : Option Json) (hsend : unsendable? body = none) (hlink : (l.reaction 0).OfLink) :
    AnsweredBy (l.reaction 0) (c.request l method path limit body).2 := by
  unfold request
  simp only [hsend]
  rw [Link.send_eq]
  cases h : l.reaction 0 with
  | response status bytes =>
    by_cases hstatus : 200 ≤ status ∧ status ≤ 299
    · simp only [if_pos hstatus]
      exact readObject_answered hstatus
    · simp only [if_neg hstatus]
      exact .failed (if_neg hstatus) trivial
  | failed failure =>
    obtain ⟨fault, message, rfl⟩ := hlink failure h
    exact .failed rfl (linkFailure_ofService limit fault message)

/-! ## 3. Text and version -/

/-- **Asking for text keeps the promise if the request can be sent**, and only then. -/
theorem generate_keeps_iff (hlink : (l.reaction 0).OfLink) (prompt : Text) :
    Keeps (fun _ => True) (c.generate l prompt).2 ↔
      Utf8.isEncodable c.settings.model = true ∧ Utf8.isEncodable prompt = true := by
  rw [← Bool.and_eq_true, ← isEncodable_generateBody _ _ c.settings.temperature]
  unfold generate
  simp only
  by_cases hbody : Utf8.isEncodable
      (generateBody c.settings.model prompt c.settings.temperature).compact = true
  · refine iff_of_true ?_ hbody
    have hanswered := request_answered c (l.emit (.requestStarted c.settings.model prompt.length))
      "POST" generatePath c.settings.timeout _ (unsendable?_eq_none_iff.mpr hbody) hlink
    generalize c.request _ _ _ _ _ = result at hanswered ⊢
    obtain ⟨l', result⟩ := result
    obtain ⟨fields, -, rfl⟩ | ⟨-, failure, hfailure, rfl⟩ := hanswered
    · exact trivial
    · exact hfailure
  · refine iff_of_false ?_ hbody
    obtain ⟨e, he⟩ := unsendable?_eq_some hbody
    rw [request_of_unsendable he]
    exact id

/-- The version in a reply. -/
def versionIn? (fields : List (Text × Json)) : Option Text :=
  match Json.lookup "version" fields with
  | some (.string (d :: rest)) => some (d :: rest)
  | _ => none

theorem ne_nil_of_versionIn? {fields : List (Text × Json)} {v : Text}
    (h : versionIn? fields = some v) : v ≠ [] := by
  unfold versionIn? at h
  split at h
  · obtain rfl := Option.some.inj h
    exact List.cons_ne_nil _ _
  · exact absurd h (by simp)

/-- The failure of a reply that has no version. -/
def noVersion : Failure :=
  .malformedReply "Ollama version reply has no 'version' field" none

theorem version_eq (c : ServiceClient) (l : Link) : (c.version l).2 =
    match (c.request l "GET" versionPath c.settings.healthTimeout none).2 with
    | .error failure => .error failure
    | .ok fields =>
      match versionIn? fields with
      | some v => .ok v
      | none => .error noVersion := by
  unfold version versionIn?
  obtain ⟨l', failure | fields⟩ := c.request l "GET" versionPath c.settings.healthTimeout none
  · rfl
  · simp only
    rcases Json.lookup "version" fields with _ | (_ | _ | _ | _ | (_ | ⟨d, rest⟩) | _ | _) <;> rfl

/-- **Asking for the version keeps the promise**; a version is not empty. -/
theorem version_keeps (hlink : (l.reaction 0).OfLink) : Keeps (· ≠ []) (c.version l).2 := by
  rw [version_eq]
  obtain ⟨fields, -, hresult⟩ | ⟨-, failure, hfailure, hresult⟩ := request_answered c
    l "GET" versionPath c.settings.healthTimeout none rfl hlink
  · simp only [hresult]
    cases h : versionIn? fields with
    | some v =>
      show v ≠ []
      exact ne_nil_of_versionIn? h
    | none => exact trivial
  · rw [hresult]
    exact hfailure

theorem version_eq_ok_iff (hlink : (l.reaction 0).OfLink) {v : Text} :
    (c.version l).2 = .ok v ↔
      ∃ fields, (l.reaction 0).object? = some fields ∧ versionIn? fields = some v := by
  rw [version_eq]
  obtain ⟨fields, hobject, hresult⟩ | ⟨hobject, failure, -, hresult⟩ := request_answered c
    l "GET" versionPath c.settings.healthTimeout none rfl hlink
  · simp only [hresult, hobject, Option.some.injEq, exists_eq_left']
    cases versionIn? fields <;> simp
  · simp [hresult, hobject]

theorem version_reactions (c : ServiceClient) (l : Link) :
    (c.version l).1.reactions = l.reactions.drop 1 := by
  have hreactions : (c.request l "GET" versionPath c.settings.healthTimeout none).1.reactions =
      l.reactions.drop 1 := request_reactions c l "GET" versionPath c.settings.healthTimeout rfl
  unfold version
  split
  · next h => simpa [h] using hreactions
  · next h =>
    rw [h] at hreactions
    split <;> exact hreactions

end ServiceClient

/-! ## 4. Models -/

namespace Json

/-- A value that can be gone through: a list, an object or a text, or whatever counts as nothing. -/
def Walkable : Json → Prop
  | .bool b => b = false
  | .int n => n = 0
  | .float x => (x == 0.0) = true
  | _ => True

/-- The names of the entries of a list. -/
def entryNames : Json → List Json
  | .array items => items.filterMap (·.field? "name")
  | _ => []

/-- A list or an object: nothing that could be looked up in a set. -/
def IsCompound : Json → Prop
  | .array _ => True
  | .object _ => True
  | _ => False

end Json

namespace ServiceClient

variable {c : ServiceClient} {l : Link} {wanted : List Text}

/-- What a reply has under `models`. -/
def modelList (fields : List (Text × Json)) : Json :=
  (Json.lookup "models" fields).getD .null

theorem modelNames_of_walkable {v : Json} (h : v.Walkable) : modelNames v = .ok v.entryNames := by
  cases v with
  | bool b =>
    obtain rfl : b = false := h
    rfl
  | int n =>
    obtain rfl : n = 0 := h
    rfl
  | float x =>
    have hx : (x == 0.0) = true := h
    simp [modelNames, Json.isEmptyLike, hx, Json.entryNames]
  | null => rfl
  | string t => simp [modelNames, Json.entryNames]
  | array items => rfl
  | object fields => simp [modelNames, Json.entryNames]

theorem modelNames_of_not_walkable {v : Json} (h : ¬ v.Walkable) :
    modelNames v = .error (.badType ("'" ++ v.kindName ++ "' object is not iterable")) := by
  cases v with
  | bool b =>
    cases b with
    | false => exact absurd rfl h
    | true => rfl
  | int n =>
    have hn : (n == 0) = false := beq_eq_false_iff_ne.mpr h
    simp [modelNames, Json.isEmptyLike, hn]
  | float x =>
    have hx : (x == 0.0) = false := eq_false_of_ne_true h
    simp [modelNames, Json.isEmptyLike, hx]
  | null => exact absurd trivial h
  | string t => exact absurd trivial h
  | array items => exact absurd trivial h
  | object fields => exact absurd trivial h

theorem models_eq (c : ServiceClient) (l : Link) : (c.models l).2 =
    match (c.request l "GET" modelsPath c.settings.healthTimeout none).2 with
    | .error failure => .error failure
    | .ok fields => modelNames (modelList fields) := by
  unfold models modelList
  obtain ⟨l', _ | fields⟩ := c.request l "GET" modelsPath c.settings.healthTimeout none <;> rfl

/-- What is done with the names of the models keeps the promise if these can be had. -/
theorem models_bind_keeps_iff {α : Type} {declared : α → Prop} {next : List Json → Except Failure α}
    {good : List Json → Prop} (hlink : (l.reaction 0).OfLink)
    (hnext : ∀ names, Keeps declared (next names) ↔ good names) :
    Keeps declared ((c.models l).2.bind next) ↔
      ∀ fields, (l.reaction 0).object? = some fields → (modelList fields).Walkable ∧
        good (modelList fields).entryNames := by
  rw [models_eq]
  obtain ⟨fields, hobject, hresult⟩ | ⟨hobject, failure, hfailure, hresult⟩ := request_answered
    c l "GET" modelsPath c.settings.healthTimeout none rfl hlink
  · simp only [hresult, hobject, Option.some.injEq, forall_eq']
    by_cases hwalk : (modelList fields).Walkable
    · rw [modelNames_of_walkable hwalk]
      exact (hnext _).trans ⟨fun h => ⟨hwalk, h⟩, And.right⟩
    · rw [modelNames_of_not_walkable hwalk]
      exact ⟨False.elim, fun h => hwalk h.1⟩
  · simp only [hresult, hobject, reduceCtorEq, false_implies, implies_true, iff_true]
    exact hfailure

/-- **Listing the models keeps the promise** if what the reply has under `models` can be gone
through and holds names that are texts. -/
theorem models_keeps_iff (hlink : (l.reaction 0).OfLink) :
    Keeps (fun names => ∀ name ∈ names, ∃ t, name = .string t) (c.models l).2 ↔
      ∀ fields, (l.reaction 0).object? = some fields → (modelList fields).Walkable ∧
        ∀ name ∈ (modelList fields).entryNames, ∃ t, name = .string t := by
  have hsame : (c.models l).2.bind .ok = (c.models l).2 := by cases (c.models l).2 <;> rfl
  rw [← hsame]
  exact models_bind_keeps_iff hlink fun _ => Iff.rfl

/-- No name that cannot be compared comes before the first one that is wanted. -/
def Findable (wanted : List Text) (names : List Json) : Prop :=
  ∀ before name after, names = before ++ name :: after → name.IsCompound →
    ∃ t ∈ wanted, Json.string t ∈ before

theorem findable_nil : Findable wanted [] := by
  intro before name after h
  exact absurd h (by simp)

theorem findable_of_wanted {t : Text} {names : List Json} (h : t ∈ wanted) :
    Findable wanted (.string t :: names) := by
  intro before name after heq hcompound
  cases before with
  | nil =>
    obtain ⟨rfl, -⟩ := List.cons.inj heq
    exact False.elim hcompound
  | cons first before =>
    obtain ⟨rfl, -⟩ := List.cons.inj heq
    exact ⟨t, h, List.mem_cons_self⟩

theorem not_findable_cons {name : Json} {names : List Json} (h : name.IsCompound) :
    ¬ Findable wanted (name :: names) := by
  intro hfind
  obtain ⟨t, -, hmem⟩ := hfind [] name names rfl h
  exact absurd hmem (by simp)

theorem findable_cons {name : Json} {names : List Json} (h : ¬ name.IsCompound)
    (hwanted : ∀ t ∈ wanted, name ≠ .string t) :
    Findable wanted (name :: names) ↔ Findable wanted names := by
  constructor
  · intro hfind before other after heq hcompound
    obtain ⟨t, ht, hmem⟩ := hfind (name :: before) other after (by rw [heq]; rfl) hcompound
    obtain hhead | htail := List.mem_cons.mp hmem
    · exact absurd hhead.symm (hwanted t ht)
    · exact ⟨t, ht, htail⟩
  · intro hfind before other after heq hcompound
    cases before with
    | nil =>
      obtain ⟨rfl, -⟩ := List.cons.inj heq
      exact absurd hcompound h
    | cons first before =>
      obtain ⟨rfl, hrest⟩ := List.cons.inj heq
      obtain ⟨t, ht, hmem⟩ := hfind before other after hrest hcompound
      exact ⟨t, ht, List.mem_cons_of_mem _ hmem⟩

/-- Looking a name up ends with an answer if no name before it is in the way. -/
theorem findName_keeps_iff (wanted : List Text) (names : List Json) :
    Keeps (fun _ => True) (findName wanted names) ↔ Findable wanted names := by
  induction names with
  | nil => exact ⟨fun _ => findable_nil, fun _ => trivial⟩
  | cons name names ih =>
    cases name with
    | array items =>
      exact ⟨fun h => False.elim h, fun h => absurd h (not_findable_cons trivial)⟩
    | object fields =>
      exact ⟨fun h => False.elim h, fun h => absurd h (not_findable_cons trivial)⟩
    | string t =>
      rw [findName]
      by_cases ht : t ∈ wanted
      · rw [if_pos (List.contains_iff_mem.mpr ht)]
        exact ⟨fun _ => findable_of_wanted ht, fun _ => trivial⟩
      · rw [if_neg (by simpa using ht), ih, findable_cons id]
        intro u hu heq
        obtain rfl := Json.string.inj heq
        exact ht hu
    | null => exact ih.trans (findable_cons id (by simp)).symm
    | bool b => exact ih.trans (findable_cons id (by simp)).symm
    | int n => exact ih.trans (findable_cons id (by simp)).symm
    | float x => exact ih.trans (findable_cons id (by simp)).symm

/-- The names under which a model may be installed, the configured one unless another is named. -/
def wantedNames (c : ServiceClient) (name : Option Text) : List Text :=
  installedNames (match name with
    | some (d :: rest) => d :: rest
    | _ => c.settings.model)

/-- The models of a reply can be gone through up to a wanted one. -/
def Searchable (wanted : List Text) (r : Reaction) : Prop :=
  ∀ fields, r.object? = some fields →
    (modelList fields).Walkable ∧ Findable wanted (modelList fields).entryNames

theorem hasModel_eq (c : ServiceClient) (l : Link) (name : Option Text) :
    (c.hasModel l name).2 = (c.models l).2.bind (findName (c.wantedNames name)) := by
  unfold hasModel wantedNames
  obtain ⟨l', _ | names⟩ := c.models l <;> rfl

/-- **Asking for a model keeps the promise** if the models of the reply can be gone through up to
it. -/
theorem hasModel_keeps_iff (hlink : (l.reaction 0).OfLink) (name : Option Text) :
    Keeps (fun _ => True) (c.hasModel l name).2 ↔
      Searchable (c.wantedNames name) (l.reaction 0) := by
  rw [hasModel_eq]
  exact models_bind_keeps_iff hlink (findName_keeps_iff _)

theorem modelNames_error {v : Json} {failure : Failure} (h : modelNames v = .error failure) :
    ∃ message, failure = .badType message := by
  by_cases hwalk : v.Walkable
  · rw [modelNames_of_walkable hwalk] at h
    exact absurd h (by simp)
  · rw [modelNames_of_not_walkable hwalk] at h
    exact ⟨_, (Except.error.inj h).symm⟩

theorem findName_error {names : List Json} {failure : Failure}
    (h : findName wanted names = .error failure) : ∃ message, failure = .badType message := by
  induction names with
  | nil => exact absurd h (by simp [findName])
  | cons name names ih =>
    cases name with
    | array items => exact ⟨_, (Except.error.inj h).symm⟩
    | object fields => exact ⟨_, (Except.error.inj h).symm⟩
    | string t =>
      rw [findName] at h
      split at h
      · exact absurd h (by simp)
      · exact ih h
    | _ => exact ih h

/-- The promise is broken in one way only: a value has the wrong type. -/
theorem hasModel_error (hlink : (l.reaction 0).OfLink) {name : Option Text} {failure : Failure}
    (h : (c.hasModel l name).2 = .error failure) :
    failure.OfService ∨ ∃ message, failure = .badType message := by
  rw [hasModel_eq, models_eq] at h
  obtain ⟨fields, -, hresult⟩ | ⟨-, other, hother, hresult⟩ := request_answered
    c l "GET" modelsPath c.settings.healthTimeout none rfl hlink
  · simp only [hresult] at h
    cases hnames : modelNames (modelList fields) with
    | error e =>
      rw [hnames] at h
      obtain rfl := Except.error.inj h
      exact Or.inr (modelNames_error hnames)
    | ok names =>
      rw [hnames] at h
      exact Or.inr (findName_error h)
  · simp only [hresult] at h
    obtain rfl := Except.error.inj h
    exact Or.inl hother

end ServiceClient

/-! ## 5. Health -/

namespace HealthReport

variable {c : ServiceClient} {l : Link}

/-- The time within which the version has to come. -/
def versionLimit (c : ServiceClient) : Float :=
  c.settings.healthTimeout + 1.0

theorem foldl_emit_reactions (events : List Log.Event) (l : Link) :
    (events.foldl Link.emit l).reactions = l.reactions := by
  induction events generalizing l with
  | nil => rfl
  | cons e events ih => exact ih (l.emit e)

theorem isForeseen_of_ofService {failure : Failure} (h : failure.OfService) :
    failure.isForeseen = true := by
  cases failure <;> first | rfl | exact False.elim h

/-- A version comes in time. -/
def Answers (c : ServiceClient) (r : Reaction) : Prop :=
  ¬ versionLimit c ≤ 0.0 ∧ ∃ fields v, r.object? = some fields ∧
    ServiceClient.versionIn? fields = some v

/-- The check of the service has a finding, which is healthy if a version came in time. -/
theorem ofService_finds (elapsed : Float) (hlink : (l.reaction 0).OfLink) :
    ∃ check, (HealthCheck.ofService c elapsed l).2 = .ok check ∧
      (check.status = .healthy ↔ Answers c (l.reaction 0)) := by
  have hkeeps := c.version_keeps hlink
  have hversion : (∃ fields v, (l.reaction 0).object? = some fields ∧
      ServiceClient.versionIn? fields = some v) ↔ ∃ v, (c.version l).2 = .ok v := by
    rw [exists_comm]
    exact exists_congr fun v => (ServiceClient.version_eq_ok_iff hlink).symm
  unfold HealthCheck.ofService withDeadline Answers versionLimit
  rw [hversion]
  generalize c.version l = answer at hkeeps ⊢
  obtain ⟨l', result⟩ := answer
  by_cases hlate : c.settings.healthTimeout + 1.0 ≤ 0.0
  · simp only [if_pos hlate]
    exact ⟨_, rfl, by simp [hlate]⟩
  · simp only [if_neg hlate]
    cases result with
    | ok v => exact ⟨_, rfl, by simp [hlate]⟩
    | error failure =>
      have hforeseen : failure.isForeseen = true := isForeseen_of_ofService hkeeps
      simp only [hforeseen, if_true]
      exact ⟨_, rfl, by simp⟩

theorem ofService_reactions (c : ServiceClient) (elapsed : Float) (l : Link) :
    (HealthCheck.ofService c elapsed l).1.reactions = l.reactions.drop 1 := by
  have hreactions := c.version_reactions l
  unfold HealthCheck.ofService
  generalize c.version l = answer at hreactions ⊢
  obtain ⟨l', result⟩ := answer
  simp only
  split
  · exact (foldl_emit_reactions _ _).trans hreactions
  · split <;> exact (foldl_emit_reactions _ _).trans hreactions

/-- The check of the model has a finding if the look for it keeps the promise. -/
theorem ofModel_finds_iff (hlink : (l.reaction 0).OfLink) :
    (∃ check, (HealthCheck.ofModel c l).2 = .ok check) ↔
      ServiceClient.Searchable (c.wantedNames (some c.settings.model)) (l.reaction 0) := by
  rw [← ServiceClient.hasModel_keeps_iff hlink]
  have herror : ∀ failure, (c.hasModel l (some c.settings.model)).2 = .error failure →
      failure.OfService ∨ ∃ message, failure = .badType message :=
    fun _ => ServiceClient.hasModel_error hlink
  unfold HealthCheck.ofModel
  simp only
  generalize c.hasModel l (some c.settings.model) = answer at herror ⊢
  obtain ⟨l', result⟩ := answer
  cases result with
  | ok found => cases found <;> exact iff_of_true ⟨_, rfl⟩ trivial
  | error failure =>
    obtain hservice | ⟨message, rfl⟩ := herror failure rfl
    · have hforeseen : failure.isForeseen = true := isForeseen_of_ofService hservice
      simp only [hforeseen, if_true]
      exact iff_of_true ⟨_, rfl⟩ hservice
    · refine iff_of_false ?_ id
      rintro ⟨check, hcheck⟩
      exact absurd hcheck (by simp [Failure.isForeseen])

/-- **The checks have a report**, unless a version comes in time and the models that come after it
cannot be gone through. -/
theorem reports_iff (time : Int) (elapsed : Float) (hlink : ∀ n, (l.reaction n).OfLink) :
    (∃ report, (run c time elapsed l).2 = .ok report) ↔ (Answers c (l.reaction 0) →
      ServiceClient.Searchable (c.wantedNames (some c.settings.model)) (l.reaction 1)) := by
  have hchecks : (∃ report, (run c time elapsed l).2 = .ok report) ↔
      ∃ checks, (runChecks c elapsed (l.emit (.healthCheckStarted c.settings.address))).2 =
        .ok checks := by
    unfold run
    generalize runChecks c elapsed _ = answer
    obtain ⟨l', failure | checks⟩ := answer
    · simp
    · exact iff_of_true ⟨_, rfl⟩ ⟨_, rfl⟩
  rw [hchecks]
  generalize hstarted : l.emit (.healthCheckStarted c.settings.address) = started
  have hreaction : ∀ n, started.reaction n = l.reaction n := fun n => by rw [← hstarted]; rfl
  obtain ⟨first, hfirst, hhealthy⟩ := ofService_finds (c := c) (l := started) elapsed
    (hreaction 0 ▸ hlink 0)
  have hnext := Link.reaction_of_drop (ofService_reactions c elapsed started)
  rw [hreaction 0] at hhealthy
  unfold runChecks
  generalize HealthCheck.ofService c elapsed started = answer at hfirst hnext ⊢
  obtain ⟨l', result⟩ := answer
  obtain rfl : result = .ok first := hfirst
  -- the second check is made only if the first one finds the service healthy
  by_cases hstatus : first.status = .healthy
  · have hsecond : l'.reaction 0 = l.reaction 1 := (hnext 0).trans (hreaction 1)
    have hmodel := ofModel_finds_iff (c := c) (l := l') (hsecond ▸ hlink 1)
    rw [hsecond] at hmodel
    simp only [if_pos hstatus, hhealthy.mp hstatus, true_implies, ← hmodel]
    obtain ⟨l'', failure | check⟩ := HealthCheck.ofModel c l'
    · simp
    · exact iff_of_true ⟨_, rfl⟩ ⟨_, rfl⟩
  · simp only [if_neg hstatus]
    exact iff_of_true ⟨_, rfl⟩ fun hanswers => absurd (hhealthy.mpr hanswers) hstatus

end HealthReport

/-! ## 6. The promise -/

namespace ServiceClient

/-- **Which replies break the promise of the client.** Whatever comes of the requests: asking for
text keeps it if the prompt and the model's name are text that can be sent; asking for the version
always does; listing the models does unless what the reply has under `models` cannot be gone through
or has a name that is no text; asking for a model does unless the models cannot be gone through up to
it; and the health checks have a report unless they come to such a list of models. -/
theorem keeps_contract_iff (c : ServiceClient) (l : Link) (hlink : ∀ r ∈ l.reactions, r.OfLink) :
    (∀ prompt, Keeps (fun _ => True) (c.generate l prompt).2 ↔
      Utf8.isEncodable c.settings.model = true ∧ Utf8.isEncodable prompt = true) ∧
    Keeps (· ≠ []) (c.version l).2 ∧
    (Keeps (fun names => ∀ name ∈ names, ∃ t, name = .string t) (c.models l).2 ↔
      ∀ fields, (l.reaction 0).object? = some fields → (modelList fields).Walkable ∧
        ∀ name ∈ (modelList fields).entryNames, ∃ t, name = .string t) ∧
    (∀ name, Keeps (fun _ => True) (c.hasModel l name).2 ↔
      Searchable (c.wantedNames name) (l.reaction 0)) ∧
    ∀ time elapsed, (∃ report, (HealthReport.run c time elapsed l).2 = .ok report) ↔
      (HealthReport.Answers c (l.reaction 0) →
        Searchable (c.wantedNames (some c.settings.model)) (l.reaction 1)) := by
  have hreaction := Link.reaction_ofLink hlink
  refine ⟨fun prompt => ?_, ?_, ?_, fun name => ?_, fun time elapsed => ?_⟩
  · exact generate_keeps_iff (hreaction 0) prompt
  · exact version_keeps (hreaction 0)
  · exact models_keeps_iff (hreaction 0)
  · exact hasModel_keeps_iff (hreaction 0) name
  · exact HealthReport.reports_iff time elapsed hreaction

/-! ## 7. A reply that breaks the promise -/

/-- Text of the basic Latin block as bytes. -/
def latinBytes (t : Text) : Bytes :=
  t.map fun c => UInt8.ofNat c.val

theorem pieces_latinBytes {t : Text} (h : ∀ c ∈ t, c.val < 0x80) :
    Utf8.pieces (latinBytes t) = t.map (Utf8.Piece.char · 1) := by
  induction t with
  | nil => simp [latinBytes, Utf8.pieces]
  | cons c t ih =>
    obtain ⟨hc, ht⟩ := List.forall_mem_cons.mp h
    have hbyte : (UInt8.ofNat c.val).toNat = c.val := Utf8.toNat_byte (by omega)
    show Utf8.pieces (UInt8.ofNat c.val :: latinBytes t) = _
    rw [Utf8.pieces_one (by rw [hbyte]; exact hc), ih ht, hbyte]
    rfl

theorem joinSurrogates_chars (t : Text) (position : Nat) :
    Json.joinSurrogates position (t.map (Utf8.Piece.char · 1)) = .ok t := by
  induction t generalizing position with
  | nil => rfl
  | cons c t ih => simp only [List.map_cons, Json.joinSurrogates, ih]

/-- What text of the basic Latin block holds can be read from its bytes. -/
theorem readBytes_latinBytes {t : Text} (h : ∀ c ∈ t, c.val < 0x80)
    (hencoding : Json.Encoding.ofBytes (latinBytes t) = .utf8) :
    Json.readBytes (latinBytes t) = (Json.readWhole t).mapError (·.message t) := by
  have hdecode : Json.decodeBytes (latinBytes t) = .ok t := by
    rw [Json.decodeBytes, hencoding]
    simp only [pieces_latinBytes h, joinSurrogates_chars]
    rfl
  rw [Json.readBytes, hdecode]

/-- A reply with a version. -/
def versionReply : Text := "\x7b\"version\":\"1\"\x7d"

/-- A reply with a model whose name is a list. -/
def listNamedReply : Text := "\x7b\"models\":[\x7b\"name\":[\"x\"]\x7d]\x7d"

/-- The object of that reply. -/
def versionFields : List (Text × Json) := [("version", .string "1")]

/-- The object of that reply. -/
def listNamedFields : List (Text × Json) :=
  [("models", .array [.object [("name", .array [.string "x"])]])]

theorem object?_versionReply :
    (Reaction.response 200 (latinBytes versionReply)).object? = some versionFields := by
  show (match Json.readBytes (latinBytes versionReply) with
    | .ok (.object fields) => some fields
    | _ => none) = some versionFields
  rw [readBytes_latinBytes (by decide) (by decide)]
  rfl

theorem object?_listNamedReply :
    (Reaction.response 200 (latinBytes listNamedReply)).object? = some listNamedFields := by
  show (match Json.readBytes (latinBytes listNamedReply) with
    | .ok (.object fields) => some fields
    | _ => none) = some listNamedFields
  rw [readBytes_latinBytes (by decide) (by decide)]
  rfl

/-- The client for the usual settings. -/
def usualClient : ServiceClient := ⟨{}, ⟨"http", [], "localhost", some 11434, "/", none⟩⟩

/-- A service that lists a model whose name is a list. -/
def listNamedLink : Link := { reactions := [.response 200 (latinBytes listNamedReply)] }

theorem ofLink_listNamed : ∀ r ∈ listNamedLink.reactions, r.OfLink := by
  intro r hr failure hfailure
  obtain rfl := List.mem_singleton.mp hr
  exact absurd hfailure (by simp)

theorem not_searchable_listNamed (wanted : List Text) :
    ¬ Searchable wanted (listNamedLink.reaction 0) := by
  intro h
  obtain ⟨-, hfind⟩ := h listNamedFields object?_listNamedReply
  have hlist : (Json.array [.string "x"]).IsCompound := trivial
  exact not_findable_cons hlist hfind

theorem hasModel_listNamed : (usualClient.hasModel listNamedLink none).2 =
    .error (.badType "unhashable type: 'list'") := by
  have hanswered := request_answered usualClient listNamedLink "GET" modelsPath
    usualClient.settings.healthTimeout none rfl (Link.reaction_ofLink ofLink_listNamed 0)
  obtain ⟨fields, hobject, hresult⟩ | ⟨hobject, -⟩ := hanswered
  · obtain rfl : listNamedFields = fields :=
      Option.some.inj (object?_listNamedReply.symm.trans hobject)
    rw [hasModel_eq, models_eq, hresult]
    rfl
  · exact absurd (object?_listNamedReply.symm.trans hobject) (by simp)

/-- At that service the promise is kept for the version, though the reply has none, and broken where
models are asked for. -/
theorem keeps_contract_iff_listNamed :
    (∀ r ∈ listNamedLink.reactions, r.OfLink) ∧
      Keeps (· ≠ []) (usualClient.version listNamedLink).2 ∧
      Keeps (fun _ => True) (usualClient.generate listNamedLink "p").2 ∧
      ¬ Keeps (fun _ => True) (usualClient.hasModel listNamedLink (some "x")).2 := by
  obtain ⟨htext, hversion, -, hmodel, -⟩ :=
    keeps_contract_iff usualClient listNamedLink ofLink_listNamed
  refine ⟨ofLink_listNamed, hversion, ?_, fun h => ?_⟩
  · rw [htext]
    exact ⟨Utf8.isEncodable_ofString _, Utf8.isEncodable_ofString _⟩
  · exact not_searchable_listNamed _ ((hmodel (some "x")).mp h)

/-- **The promise is broken** by a reply that is well-formed in every other respect: listing the
models hands on a name that is no text, looking for a model ends with a type failure, and, when the
service answers in time, so do the health checks. -/
theorem contract_broken :
    (∀ r ∈ listNamedLink.reactions, r.OfLink) ∧
      ¬ Keeps (fun names => ∀ name ∈ names, ∃ t, name = .string t)
        (usualClient.models listNamedLink).2 ∧
      (usualClient.hasModel listNamedLink none).2 =
        .error (.badType "unhashable type: 'list'") ∧
      ¬ Keeps (fun _ => True) (usualClient.hasModel listNamedLink none).2 ∧
      (¬ HealthReport.versionLimit usualClient ≤ 0.0 → ∀ time elapsed,
        ¬ ∃ report, (HealthReport.run usualClient time elapsed
          { reactions := .response 200 (latinBytes versionReply) :: listNamedLink.reactions }).2 =
            .ok report) := by
  have hlink := Link.reaction_ofLink ofLink_listNamed
  refine ⟨ofLink_listNamed, fun h => ?_, hasModel_listNamed, fun h => ?_, ?_⟩
  · obtain ⟨-, hnames⟩ := (models_keeps_iff (hlink 0)).mp h listNamedFields object?_listNamedReply
    obtain ⟨t, ht⟩ := hnames _ List.mem_cons_self
    exact absurd ht (by simp)
  · exact not_searchable_listNamed _ ((hasModel_keeps_iff (hlink 0) none).mp h)
  · intro hlimit time elapsed hreport
    have hboth := Link.reaction_ofLink
      (l := { reactions := .response 200 (latinBytes versionReply) :: listNamedLink.reactions })
      (List.forall_mem_cons.mpr ⟨by simp [Reaction.OfLink], ofLink_listNamed⟩)
    have hsearch := (HealthReport.reports_iff time elapsed hboth).mp hreport
      ⟨hlimit, versionFields, "1", object?_versionReply, rfl⟩
    exact not_searchable_listNamed _ hsearch

end ServiceClient

end LintMend
