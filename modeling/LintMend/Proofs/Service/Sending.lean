/-
LintMend.Proofs.Service.Sending — which requests can be sent.

The body of a request is sent as bytes, so each code point of its text has to be a character. Whatever
the program writes itself is: keywords, numbers, escapes. What is left are the texts that the body
quotes.

  `isEncodable_quote`       — a quoted text can be sent if the text can
  `isEncodable_floatText`   — a number can be sent
  `isEncodable_generateBody` — a request for text can be sent if the model's name and the prompt can
-/
import LintMend.Service.Client

namespace LintMend

/-! ## 1. Encodable text -/

namespace Utf8

variable {t u : Text}

/-- Text can be written as bytes if each of its code points is a character. -/
theorem exists_encodeFrom_iff (position : Nat) :
    (∃ bytes, encodeFrom position t = .ok bytes) ↔ isEncodable t = true := by
  induction t generalizing position with
  | nil => simp [encodeFrom, isEncodable]
  | cons c t ih =>
    by_cases hc : c.isScalar = true
    · have hrest := ih (position + 1)
      simp only [encodeFrom, hc, if_true, isEncodable, List.all_cons, Bool.true_and]
      rw [isEncodable] at hrest
      rw [← hrest]
      cases encodeFrom (position + 1) t <;> simp
    · simp [encodeFrom, isEncodable, hc]

@[simp] theorem isEncodable_nil : isEncodable [] = true := rfl

@[simp] theorem isEncodable_cons (c : CodePoint) :
    isEncodable (c :: t) = (c.isScalar && isEncodable t) := rfl

@[simp] theorem isEncodable_append : isEncodable (t ++ u) = (isEncodable t && isEncodable u) :=
  List.all_append

theorem isScalar_ofChar (c : Char) : (CodePoint.ofChar c).isScalar = true := by
  have hval : (CodePoint.ofChar c).val = c.toNat := rfl
  have hvalid : c.toNat < 0xD800 ∨ (0xDFFF < c.toNat ∧ c.toNat < 0x110000) := c.valid
  simp only [CodePoint.isScalar, hval, Bool.or_eq_true, Bool.and_eq_true, decide_eq_true_eq]
  omega

@[simp] theorem isEncodable_map_ofChar (chars : List Char) :
    isEncodable (chars.map CodePoint.ofChar) = true := by
  simp [isEncodable, isScalar_ofChar]

@[simp] theorem isEncodable_ofString (s : String) : isEncodable (Text.ofString s) = true :=
  isEncodable_map_ofChar s.toList

@[simp] theorem isEncodable_replicate (n : Nat) (c : Char) :
    isEncodable (List.replicate n (CodePoint.ofChar c)) = true := by
  simp [isEncodable, isScalar_ofChar]

end Utf8

open Utf8

/-! ## 2. Numbers -/

@[simp] theorem isEncodable_ofNat (n : Nat) : isEncodable (Text.ofNat n) = true :=
  isEncodable_map_ofChar _

@[simp] theorem isEncodable_ofNatBase (base width n : Nat) :
    isEncodable (Text.ofNatBase base width n) = true := by
  simp [Text.ofNatBase]

/-- A part of an encodable text is encodable. -/
theorem isEncodable_of_subset {t u : Text} (hsub : t ⊆ u) (h : isEncodable u = true) :
    isEncodable t = true := by
  rw [isEncodable, List.all_eq_true] at h ⊢
  intro c hc
  exact h c (hsub hc)

theorem isEncodable_decimalText (d : Decimal) : isEncodable d.text = true := by
  unfold Decimal.text
  extract_lets all digits point zeros whole fraction e mantissa sign
  have hdigits : isEncodable digits = true := isEncodable_map_ofChar _
  have hwhole : isEncodable whole = true := isEncodable_of_subset (List.take_subset _ _) hdigits
  have hfraction : isEncodable (if fraction.isEmpty then Text.ofNat 0 else fraction) = true := by
    split
    · exact isEncodable_ofNat 0
    · exact isEncodable_of_subset (List.drop_subset _ _) hdigits
  have hmantissa : isEncodable mantissa = true := by
    simp only [mantissa]
    generalize digits = shown at hdigits
    rcases shown with _ | ⟨first, _ | ⟨second, rest⟩⟩
    · rfl
    · exact hdigits
    · simpa using hdigits
  have hsign : isEncodable sign = true := by
    simp only [sign]
    split <;> exact isEncodable_ofString _
  split
  · split
    · simp only [zeros, isEncodable_append, isEncodable_ofString, isEncodable_replicate, hdigits,
        Bool.and_true]
    · simp only [zeros, isEncodable_append, isEncodable_ofString, isEncodable_replicate, hwhole,
        hfraction, Bool.and_true]
  · simp only [isEncodable_append, isEncodable_ofString, isEncodable_ofNatBase, hmantissa, hsign,
      Bool.and_true]

/-- **A number can be sent**, whatever it is. -/
theorem isEncodable_floatText (x : Float) : isEncodable (floatText x) = true := by
  unfold floatText
  extract_lets bits sign exponentBits fraction narrow
  have hsign : isEncodable sign = true := by
    show isEncodable (if bits / Nat.pow 2 63 = 1 then ("-" : Text) else []) = true
    split <;> simp
  split
  · split <;> simp [hsign]
  · split
    · simp [hsign]
    · split <;> simp [hsign, isEncodable_decimalText]

/-! ## 3. Values -/

namespace Json

theorem isEncodable_numberText (x : Float) : isEncodable (numberText x) = true := by
  unfold numberText
  split
  · simp
  · split
    · split <;> simp
    · exact isEncodable_floatText x

/-- An escape can be sent if what it stands for can: what is no character is not escaped. -/
theorem isEncodable_escape (c : CodePoint) : isEncodable (escape false c) = c.isScalar := by
  by_cases hc : c.isScalar = true
  · unfold escape
    rw [hc]
    split <;> try (simp; done)
    split
    · unfold unicodeEscape
      split <;> simp
    · simp [hc]
  · have hchar : c.char? = none := by simp [CodePoint.char?, hc]
    have hlarge : ¬ c.val < 0x20 := by
      intro hlt
      apply hc
      simp only [CodePoint.isScalar, Bool.or_eq_true, decide_eq_true_eq]
      exact Or.inl (by omega)
    simp [escape, hchar, hlarge]

theorem isEncodable_quote (t : Text) : isEncodable (quote false t) = isEncodable t := by
  have hflat : isEncodable (t.flatMap (escape false)) = isEncodable t := by
    induction t with
    | nil => rfl
    | cons c t ih => rw [List.flatMap_cons, isEncodable_append, ih, isEncodable_escape,
        isEncodable_cons]
  simp [quote, hflat]

end Json

namespace ServiceClient

/-- **A request for text can be sent if the name of the model and the prompt can be.** -/
theorem isEncodable_generateBody (model prompt : Text) (temperature : Float) :
    isEncodable (generateBody model prompt temperature).compact =
      (isEncodable model && isEncodable prompt) := by
  simp [generateBody, Json.compact, Json.print, Json.printFields, Json.isEncodable_quote,
    Json.isEncodable_numberText]

theorem unsendable?_eq_none_iff {body : Json} :
    unsendable? (some body) = none ↔ isEncodable body.compact = true := by
  rw [← exists_encodeFrom_iff 0, unsendable?, encode]
  cases encodeFrom 0 body.compact <;> simp

theorem unsendable?_eq_some {body : Json} (h : isEncodable body.compact ≠ true) :
    ∃ e, unsendable? (some body) = some (.unencodable e) := by
  have hsome := mt unsendable?_eq_none_iff.mp h
  unfold unsendable? at hsome ⊢
  cases hencoded : Utf8.encode body.compact with
  | ok bytes => simp [hencoded] at hsome
  | error e => exact ⟨e, by simp only [hencoded]⟩

end ServiceClient

end LintMend
