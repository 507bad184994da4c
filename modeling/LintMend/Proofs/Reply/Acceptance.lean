/-
LintMend.Proofs.Reply.Acceptance — which replies are accepted, and what is said of the others.

What fits is told field by field, from the value that stands there or from its absence. An object
of which all three fields fit brings its text; another is refused with one problem for each field
that does not fit, in the order of the schema; and what is no object is refused with none. Nothing
else in the object has a say in it.

  `fitsResponse`, `fitsModel`, `fitsDone` — what can stand in the fields
  `isOk_readBool`             — the values that are taken for a switch
  `offending`, `problems_ways` — the fields that do not fit, and the problems of an object
  `replyContent_congr`        — two objects with the same three fields
  `replyContent_exact`        — the accepted replies and the refusals
-/
import LintMend.Proofs.Decimal.Whole
import LintMend.Proofs.Reply.Usable

namespace LintMend

/-! ## 1. What fits -/

namespace Envelope

open Validation

/-- The words for a switch, off and on, in small letters. -/
def switchWords : List Text :=
  ["0", "off", "f", "false", "n", "no", "1", "on", "t", "true", "y", "yes"]

/-- A value that can be taken for a switch: one itself, the numbers zero and one, and the words in
letters of either case. -/
def isSwitch : Json → Bool
  | .bool _ => true
  | .int n => n == 0 || n == 1
  | .float x => x == 0.0 || x == 1.0
  | .string t => switchWords.contains t.toLowerLatin
  | _ => false

/-- The generated text has to be there and be a text. -/
def fitsResponse : Option Json → Bool
  | some (.string _) => true
  | _ => false

/-- The model is left out, null or a text. -/
def fitsModel : Option Json → Bool
  | none | some .null | some (.string _) => true
  | _ => false

/-- The mark of the end is left out, null or a switch. -/
def fitsDone : Option Json → Bool
  | none | some .null => true
  | some value => isSwitch value

/-- The fields of an envelope in order, and what fits in them. -/
def schema : List (Text × (Option Json → Bool)) :=
  [("response", fitsResponse), ("model", fitsModel), ("done", fitsDone)]

/-- The fields of an object that do not fit, in order. -/
def offending (fields : List (Text × Json)) : List Text :=
  (schema.filter fun (name, fits) => !fits (Json.lookup name fields)).map (·.1)

variable {fields others : List (Text × Json)}

/-! ## 2. Switches -/

theorem isScalar_lowerLatin (c : CodePoint) : c.lowerLatin.isScalar = c.isScalar := by
  unfold CodePoint.lowerLatin
  split
  case isTrue hletter =>
    have hsmall : c.val < 0xD800 := by omega
    have hshifted : c.val + 0x20 < 0xD800 := by omega
    simp [CodePoint.isScalar, hsmall, hshifted]
  case isFalse => rfl

/-- What is one of the words, in letters of either case, can be written. -/
theorem isEncodable_of_word {t : Text} (h : t.toLowerLatin ∈ switchWords) :
    Utf8.isEncodable t = true := by
  have hwords : ∀ word ∈ switchWords, Utf8.isEncodable word = true := by decide
  have hlower := hwords _ h
  rw [Utf8.isEncodable, Text.toLowerLatin, List.all_map] at hlower
  rw [Utf8.isEncodable, ← hlower]
  congr 1
  funext c
  exact (isScalar_lowerLatin c).symm

theorem isOk_boolOfWord (t : Text) :
    (boolOfWord t).isOk = switchWords.contains t.toLowerLatin := by
  have hsplit : switchWords.contains t.toLowerLatin =
      (offWords.contains t.toLowerLatin || onWords.contains t.toLowerLatin) := by
    rw [show switchWords = offWords ++ onWords from rfl, List.contains_append]
  by_cases hword : t.toLowerLatin ∈ switchWords
  · have hcontains : switchWords.contains t.toLowerLatin = true := List.contains_iff_mem.mpr hword
    rw [boolOfWord, isEncodable_of_word hword, hcontains]
    rw [hsplit] at hcontains
    cases hoff : offWords.contains t.toLowerLatin with
    | true => rfl
    | false =>
      rw [hoff, Bool.false_or] at hcontains
      rw [hcontains]
      rfl
  · have hcontains : switchWords.contains t.toLowerLatin = false := by simpa using hword
    rw [hcontains]
    rw [hsplit, Bool.or_eq_false_iff] at hcontains
    rw [boolOfWord, hcontains.1, hcontains.2]
    cases Utf8.isEncodable t <;> rfl

theorem isOk_boolOfInt (n : Int) : (boolOfInt n).isOk = (n == 0 || n == 1) := by
  rw [boolOfInt]
  by_cases hzero : n = 0
  · rw [hzero]
    rfl
  · by_cases hone : n = 1
    · rw [hone]
      rfl
    · simp [hzero, hone, Except.isOk, Except.toBool]

/-- Numbers far from zero are refused, but neither zero nor one is far from it. -/
theorem isOk_boolOfInt_within (n : Int) (within : Prop) [Decidable within]
    (hzero : n = 0 → within) (hone : n = 1 → within) :
    (if within then boolOfInt n else .error .noBool : Reading Bool).isOk = (n == 0 || n == 1) := by
  split
  case isTrue => exact isOk_boolOfInt n
  case isFalse hfar =>
    have hne : n ≠ 0 ∧ n ≠ 1 := ⟨mt hzero hfar, mt hone hfar⟩
    simp [hne, Except.isOk, Except.toBool]

theorem isOk_readBool_float (x : Float) : (readBool (.float x)).isOk = (x == 0.0 || x == 1.0) := by
  rw [readBool]
  cases hwhole : intOfFloat? x with
  | none =>
    have hzero : (x == 0.0) = false := by
      rw [← Bool.not_eq_true, ← intOfFloat?_zero_iff, hwhole]
      exact nofun
    have hone : (x == 1.0) = false := by
      rw [← Bool.not_eq_true, ← intOfFloat?_one_iff, hwhole]
      exact nofun
    rw [hzero, hone]
    rfl
  | some n =>
    have hzero : (x == 0.0) = (n == 0) := by
      rw [Bool.eq_iff_iff, ← intOfFloat?_zero_iff, hwhole]
      simp
    have hone : (x == 1.0) = (n == 1) := by
      rw [Bool.eq_iff_iff, ← intOfFloat?_one_iff, hwhole]
      simp
    rw [hzero, hone]
    exact isOk_boolOfInt_within n _ (by rintro rfl; decide) (by rintro rfl; decide)

/-- **The values that are taken for a switch.** -/
theorem isOk_readBool (value : Json) : (readBool (.ofJson value)).isOk = isSwitch value := by
  cases value with
  | null => rfl
  | bool b => rfl
  | int n => exact isOk_boolOfInt_within n _ (by rintro rfl; decide) (by rintro rfl; decide)
  | float x => exact isOk_readBool_float x
  | string t => exact isOk_boolOfWord t
  | array items => rfl
  | object fields => rfl

/-! ## 3. Fields -/

theorem isOk_map {ε α β : Type} (r : Except ε α) (f : α → β) : (r.map f).isOk = r.isOk := by
  cases r <;> rfl

theorem isOk_readText (value : Json) :
    (readText (.ofJson value)).isOk = fitsResponse (some value) := by
  cases value <;> rfl

theorem isOk_readResponse (fields : List (Text × Json)) :
    (readResponse fields).isOk = fitsResponse (Json.lookup "response" fields) := by
  rw [readResponse]
  cases Json.lookup "response" fields with
  | none => rfl
  | some value => exact isOk_readText value

theorem isOk_readModel (fields : List (Text × Json)) :
    (readModel fields).isOk = fitsModel (Json.lookup "model" fields) := by
  rw [readModel]
  cases Json.lookup "model" fields with
  | none => rfl
  | some value => cases value <;> rfl

theorem isOk_readDone (fields : List (Text × Json)) :
    (readDone fields).isOk = fitsDone (Json.lookup "done" fields) := by
  rw [readDone]
  cases Json.lookup "done" fields with
  | none => rfl
  | some value =>
    have hswitch := isOk_readBool value
    cases value <;> first | rfl | exact (isOk_map _ some).trans hswitch

/-- A text that fits is what is read. -/
theorem readResponse_eq_ok_iff {t : Text} :
    readResponse fields = .ok t ↔ Json.lookup "response" fields = some (.string t) := by
  rw [readResponse]
  cases Json.lookup "response" fields with
  | none => simp
  | some value => cases value <;> simp [Datum.ofJson, readText]

/-- The problem of a field stands where the field does, if it does not fit. -/
theorem problemOf_ways {α : Type} (name : Text) (r : Reading α) :
    (problemOf name r).map Problem.way = if r.isOk then [] else [[.field name]] := by
  cases r <;> rfl

/-! ## 4. Objects -/

/-- **The problems of an object stand at the fields that do not fit**, in their order. -/
theorem problems_ways (fields : List (Text × Json)) :
    (problemOf "response" (readResponse fields) ++ problemOf "model" (readModel fields) ++
      problemOf "done" (readDone fields)).map Problem.way =
      (offending fields).map fun name => [.field name] := by
  simp only [List.map_append, problemOf_ways, isOk_readResponse, isOk_readModel, isOk_readDone]
  cases hresponse : fitsResponse (Json.lookup "response" fields) <;>
    cases hmodel : fitsModel (Json.lookup "model" fields) <;>
    cases hdone : fitsDone (Json.lookup "done" fields) <;>
    simp [offending, schema, hresponse, hmodel, hdone]

/-- An object of which all fields fit is an envelope with its text. -/
theorem ofFields_fitting (h : offending fields = []) :
    ∃ envelope, ofFields fields = .ok envelope ∧
      Json.lookup "response" fields = some (.string envelope.response) := by
  have hways := problems_ways fields
  rw [h] at hways
  rw [ofFields]
  cases hresponse : readResponse fields with
  | error complaint =>
    rw [hresponse] at hways
    exact nomatch hways
  | ok response =>
    cases hmodel : readModel fields with
    | error complaint =>
      rw [hresponse, hmodel] at hways
      exact nomatch hways
    | ok model =>
      cases hdone : readDone fields with
      | error complaint =>
        rw [hresponse, hmodel, hdone] at hways
        exact nomatch hways
      | ok done => exact ⟨_, rfl, readResponse_eq_ok_iff.mp hresponse⟩

/-- Any other is refused with the problems of these fields. -/
theorem ofFields_offending (h : offending fields ≠ []) :
    ∃ problems, ofFields fields = .error problems ∧
      problems.map Problem.way = (offending fields).map fun name => [.field name] := by
  have hways := problems_ways fields
  rw [ofFields]
  split
  next response model done hresponse hmodel hdone =>
    rw [hresponse, hmodel, hdone] at hways
    exact absurd (List.map_eq_nil_iff.mp hways.symm) h
  next => exact ⟨_, rfl, hways⟩

/-- Only the three fields have a say. -/
theorem ofFields_congr
    (h : ∀ name ∈ schema.map (·.1), Json.lookup name fields = Json.lookup name others) :
    ofFields fields = ofFields others := by
  have hresponse : readResponse fields = readResponse others := by
    rw [readResponse, readResponse, h "response" (by decide)]
  have hmodel : readModel fields = readModel others := by
    rw [readModel, readModel, h "model" (by decide)]
  have hdone : readDone fields = readDone others := by
    rw [readDone, readDone, h "done" (by decide)]
  rw [ofFields, ofFields, hresponse, hmodel, hdone]

end Envelope

/-! ## 5. Replies -/

open Envelope

variable {fields others : List (Text × Json)}

theorem replyContent_fitting (h : offending fields = []) : ∃ t,
    Json.lookup "response" fields = some (.string t) ∧
      replyContent (.object fields) = ([], .ok (Fence.stripFences t)) := by
  obtain ⟨envelope, hfields, hresponse⟩ := ofFields_fitting h
  refine ⟨envelope.response, hresponse, ?_⟩
  simp only [replyContent, Envelope.check, hfields]

theorem replyContent_offending (h : offending fields ≠ []) : ∃ refusal : Validation.Refusal,
    (replyContent (.object fields)).2 = .error (.malformedReply
        ("Response envelope failed validation: " ++ refusal.headline) (some refusal)) ∧
      refusal.problems.map (·.way) = (offending fields).map fun name => [.field name] := by
  obtain ⟨problems, hfields, hways⟩ := ofFields_offending h
  refine ⟨⟨"GenerateEnvelope", problems⟩, ?_, hways⟩
  simp only [replyContent, Envelope.check, hfields]

theorem replyContent_noObject {value : Json} (h : ∀ fields, value ≠ .object fields) :
    replyContent value =
      ([], .error (.malformedReply ("Expected a JSON object, got " ++ value.kindName) none)) := by
  cases value with
  | object fields => exact absurd rfl (h fields)
  | _ => rfl

/-- **What comes of an object is decided by its three fields.** -/
theorem replyContent_congr
    (h : ∀ name ∈ schema.map (·.1), Json.lookup name fields = Json.lookup name others) :
    (replyContent (.object fields)).2 = (replyContent (.object others)).2 := by
  have hfields := ofFields_congr h
  rw [replyContent_result, replyContent_result]
  simp only [Envelope.check, hfields]
  cases ofFields others <;> rfl

/-- **The replies that are accepted, and what becomes of the others.** An object whose fields all
fit gives its text without fences; any other object is malformed, with one problem for each field
that does not fit, in order; what is no object is malformed without a problem told; and no further
field of an object has a say. -/
theorem replyContent_exact :
    (∀ fields, offending fields = [] → ∃ t, Json.lookup "response" fields = some (.string t) ∧
      (replyContent (.object fields)).2 = .ok (Fence.stripFences t)) ∧
    (∀ fields, offending fields ≠ [] → ∃ refusal : Validation.Refusal,
      (replyContent (.object fields)).2 = .error (.malformedReply
          ("Response envelope failed validation: " ++ refusal.headline) (some refusal)) ∧
        refusal.problems.map (·.way) = (offending fields).map fun name => [.field name]) ∧
    (∀ value, (∀ fields, value ≠ .object fields) → (replyContent value).2 =
      .error (.malformedReply ("Expected a JSON object, got " ++ value.kindName) none)) ∧
    ∀ fields others,
      (∀ name ∈ schema.map (·.1), Json.lookup name fields = Json.lookup name others) →
      (replyContent (.object fields)).2 = (replyContent (.object others)).2 := by
  refine ⟨?_, ?_, ?_, ?_⟩
  · intro fields hfitting
    obtain ⟨t, hlookup, hcontent⟩ := replyContent_fitting hfitting
    exact ⟨t, hlookup, by rw [hcontent]⟩
  · intro fields hoffending
    exact replyContent_offending hoffending
  · intro value hvalue
    rw [replyContent_noObject hvalue]
  · intro fields others hagree
    exact replyContent_congr hagree

/-- A reply with a shouted switch and a field too many, and one in which two fields do not fit. -/
theorem replyContent_exact_switches :
    (replyContent (.object [("done", .string "YES"), ("eval_count", .int 7),
      ("response", .string "```java\nclass A {}\n```")])).2 = .ok "class A {}" ∧
    ∃ refusal : Validation.Refusal,
      (replyContent (.object [("done", .float 0.5), ("model", .null)])).2 =
        .error (.malformedReply
          ("Response envelope failed validation: " ++ refusal.headline) (some refusal)) ∧
      refusal.problems.map (·.way) = [[.field "response"], [.field "done"]] := by
  obtain ⟨hfitting, hoffending, -, -⟩ := replyContent_exact
  constructor
  · obtain ⟨t, hlookup, hcontent⟩ := hfitting [("done", .string "YES"), ("eval_count", .int 7),
      ("response", .string "```java\nclass A {}\n```")] (by decide)
    obtain rfl := Json.string.inj (Option.some.inj hlookup)
    rw [hcontent]
    decide
  · obtain ⟨refusal, hcontent, hways⟩ := hoffending [("done", .float 0.5), ("model", .null)]
      (by decide +kernel)
    refine ⟨refusal, hcontent, ?_⟩
    rw [hways]
    decide +kernel

end LintMend
