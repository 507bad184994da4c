/-
LintMend.Proofs.Log.Redacted — log values keep their shape when they are redacted.

Two log values are alike if they have the same containers with the same keys and the same other
values in the same places, and texts that stand in a given relation. A value is alike to just one
other through redaction, the one that the logs show. A secret that holds no bracket cannot come
about at a placeholder, so that none of the texts in it holds such a secret, though other rules ran
on them after the rule for it.

  `Value.Alike`                           — values of one shape, up to their texts
  `Value.alike_redacted_iff`              — redaction gives the one with redacted texts
  `Value.leafTexts`, `leafTexts_redacted` — the texts in a value
  `matchesSomewhere_redacted`             — secrets that are gone from them
  `Value.redacted_keeps_shape`            — shape and texts together
-/
import LintMend.Log.Redacted
import LintMend.Proofs.Redaction.Settling

namespace LintMend.Log.Value

/-! ## 1. Values of one shape -/

mutual

/-- Values of one shape, whose texts stand in a relation place by place. -/
inductive Alike (R : Text → Text → Prop) : Value → Value → Prop
  | null : Alike R null null
  | bool (b : Bool) : Alike R (bool b) (bool b)
  | int (n : Int) : Alike R (int n) (int n)
  | float (x : Float) : Alike R (float x) (float x)
  | text {t u : Text} (h : R t u) : Alike R (text t) (text u)
  | list {items others : List Value} (h : AlikeItems R items others) :
      Alike R (list items) (list others)
  | tuple {items others : List Value} (h : AlikeItems R items others) :
      Alike R (tuple items) (tuple others)
  | dict {entries others : List (Key × Value)} (h : AlikeEntries R entries others) :
      Alike R (dict entries) (dict others)

/-- As many items, each alike to the one in its place. -/
inductive AlikeItems (R : Text → Text → Prop) : List Value → List Value → Prop
  | nil : AlikeItems R [] []
  | cons {item other : Value} {rest others : List Value} (hitem : Alike R item other)
      (hrest : AlikeItems R rest others) : AlikeItems R (item :: rest) (other :: others)

/-- As many entries with the same keys in the same order, each value alike to the one in its
place. -/
inductive AlikeEntries (R : Text → Text → Prop) :
    List (Key × Value) → List (Key × Value) → Prop
  | nil : AlikeEntries R [] []
  | cons {key : Key} {value other : Value} {rest others : List (Key × Value)}
      (hvalue : Alike R value other) (hrest : AlikeEntries R rest others) :
      AlikeEntries R ((key, value) :: rest) ((key, other) :: others)

end

/-- A text and what the redactor of the logs makes of it. -/
def Redacts (t u : Text) : Prop :=
  Redactor.standard.redact t = .ok u

theorem redacts_iff {t u : Text} : Redacts t u ↔ u = t.redacted := by
  rw [Redacts, redact_standard]
  constructor
  · intro h
    exact (Except.ok.inj h).symm
  · rintro rfl
    rfl

mutual

theorem alike_redacted : ∀ v : Value, Alike Redacts v v.redacted
  | null => .null
  | bool b => .bool b
  | int n => .int n
  | float x => .float x
  | text _ => .text (redacts_iff.mpr rfl)
  | list items => .list (alike_redactedItems items)
  | tuple items => .tuple (alike_redactedItems items)
  | dict entries => .dict (alike_redactedEntries entries)

theorem alike_redactedItems : ∀ items : List Value, AlikeItems Redacts items (redactedItems items)
  | [] => .nil
  | item :: rest => .cons (alike_redacted item) (alike_redactedItems rest)

theorem alike_redactedEntries : ∀ entries : List (Key × Value),
    AlikeEntries Redacts entries (redactedEntries entries)
  | [] => .nil
  | (_, value) :: rest => .cons (alike_redacted value) (alike_redactedEntries rest)

end

mutual

theorem eq_redacted : ∀ {v w : Value}, Alike Redacts v w → w = v.redacted
  | null, _, .null => rfl
  | bool _, _, .bool _ => rfl
  | int _, _, .int _ => rfl
  | float _, _, .float _ => rfl
  | text _, _, .text h => congrArg text (redacts_iff.mp h)
  | list _, _, .list h => congrArg list (eq_redactedItems h)
  | tuple _, _, .tuple h => congrArg tuple (eq_redactedItems h)
  | dict _, _, .dict h => congrArg dict (eq_redactedEntries h)

theorem eq_redactedItems : ∀ {items others : List Value}, AlikeItems Redacts items others →
    others = redactedItems items
  | [], _, .nil => rfl
  | _ :: _, _, .cons hitem hrest =>
    congrArg₂ List.cons (eq_redacted hitem) (eq_redactedItems hrest)

theorem eq_redactedEntries : ∀ {entries others : List (Key × Value)},
    AlikeEntries Redacts entries others → others = redactedEntries entries
  | [], _, .nil => rfl
  | (key, _) :: _, _, .cons hvalue hrest =>
    congrArg₂ (fun value rest => (key, value) :: rest) (eq_redacted hvalue)
      (eq_redactedEntries hrest)

end

/-- **Redaction keeps the shape of a value**, and that is all there is to it. -/
theorem alike_redacted_iff {v w : Value} : Alike Redacts v w ↔ w = v.redacted := by
  constructor
  · exact eq_redacted
  · rintro rfl
    exact alike_redacted v

/-! ## 2. The texts in a value -/

mutual

/-- The texts in a value, in their order; keys of entries are not among them. -/
def leafTexts : Value → List Text
  | null => []
  | bool _ => []
  | int _ => []
  | float _ => []
  | text t => [t]
  | list items => leafTextsOfItems items
  | tuple items => leafTextsOfItems items
  | dict entries => leafTextsOfEntries entries

/-- The texts in items. -/
def leafTextsOfItems : List Value → List Text
  | [] => []
  | item :: rest => item.leafTexts ++ leafTextsOfItems rest

/-- The texts in the values of entries. -/
def leafTextsOfEntries : List (Key × Value) → List Text
  | [] => []
  | (_, value) :: rest => value.leafTexts ++ leafTextsOfEntries rest

end

mutual

/-- The texts in a redacted value are the redacted texts. -/
theorem leafTexts_redacted : ∀ v : Value, v.redacted.leafTexts = v.leafTexts.map Text.redacted
  | null => rfl
  | bool _ => rfl
  | int _ => rfl
  | float _ => rfl
  | text _ => rfl
  | list items => leafTexts_redactedItems items
  | tuple items => leafTexts_redactedItems items
  | dict entries => leafTexts_redactedEntries entries

theorem leafTexts_redactedItems : ∀ items : List Value,
    leafTextsOfItems (redactedItems items) = (leafTextsOfItems items).map Text.redacted
  | [] => rfl
  | item :: rest => by
    simp only [redactedItems, leafTextsOfItems, List.map_append, leafTexts_redacted item,
      leafTexts_redactedItems rest]

theorem leafTexts_redactedEntries : ∀ entries : List (Key × Value),
    leafTextsOfEntries (redactedEntries entries) = (leafTextsOfEntries entries).map Text.redacted
  | [] => rfl
  | (_, value) :: rest => by
    simp only [redactedEntries, leafTextsOfEntries, List.map_append, leafTexts_redacted value,
      leafTexts_redactedEntries rest]

end

/-! ## 3. Secrets -/

open SecretRule

/-- The kinds of secrets that never hold a bracket: words for secrets with their values, tokens of
three kinds, access keys and private keys. -/
def bracketlessRules : List SecretRule :=
  [genericSecret, personalToken, fineGrainedToken, accessKey, privateKey, signedToken]

theorem isBracketless_of_mem {rule : SecretRule} (hrule : rule ∈ bracketlessRules) :
    rule ∈ standardRules ∧ IsBracketless rule.pattern := by
  have hsub : bracketlessRules ⊆ standardRules := by simp [bracketlessRules, standardRules]
  have havoids : ∀ rule ∈ bracketlessRules, rule.pattern.avoids '[' = true := by decide
  exact ⟨hsub hrule, isBracketless_of_avoids (havoids rule hrule)⟩

/-- A redacted text holds no secret of these kinds. -/
theorem matchesSomewhere_redacted {rule : SecretRule} (hrule : rule ∈ bracketlessRules) (t : Text) :
    rule.pattern.matchesSomewhere t.redacted = false := by
  obtain ⟨hstandard, hbracket⟩ := isBracketless_of_mem hrule
  refine Bool.eq_false_iff.mpr fun hmatch => ?_
  rw [Pattern.matchesSomewhere_iff (isLocal_of_standard rule hstandard)] at hmatch
  exact not_occurs_redacted_of_bracketless hstandard hbracket hmatch

/-- **Redacting a log value** gives the one value of its shape in which every text is redacted. No
text in it is matched by a rule whose secrets hold no bracket, though the text went through further
rules after that one. -/
theorem redacted_keeps_shape (v : Value) :
    (∀ w, Alike (fun t u => Redactor.standard.redact t = .ok u) v w ↔ w = v.redacted) ∧
    ∀ t ∈ v.redacted.leafTexts, ∀ rule ∈ bracketlessRules,
      rule.pattern.matchesSomewhere t = false := by
  refine ⟨fun w => alike_redacted_iff, fun t ht rule hrule => ?_⟩
  rw [leafTexts_redacted] at ht
  obtain ⟨u, -, rfl⟩ := List.mem_map.mp ht
  exact matchesSomewhere_redacted hrule u

end LintMend.Log.Value
