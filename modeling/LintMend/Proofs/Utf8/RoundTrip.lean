/-
LintMend.Proofs.Utf8.RoundTrip — text that can be written as bytes is read back unchanged.

`pieces` cuts bytes by looking at the first byte of each character. The proof follows that: one
lemma for each width says what `pieces` does with a well-formed character of that width,
`pieces_encodeChar` puts the four together, and `decode_encode` folds them along the text.

The second byte carries the side conditions. `isSecond` refuses overlong forms, surrogates and
numbers beyond the last code point; a scalar code point meets none of the three, which is where
the arithmetic of `pieces_encodeChar` comes from.
-/
import LintMend.Utf8

namespace LintMend.Utf8

/-! ## 1. Single bytes -/

/-- A byte made from a small number has that number. -/
theorem toNat_byte {n : Nat} (h : n < 256) : (UInt8.ofNat n).toNat = n :=
  UInt8.toNat_ofNat_of_lt' h

/-- The byte that carries six bits continues a character and gives the bits back. -/
theorem continuation_spec (n : Nat) :
    isContinuation (UInt8.ofNat (0x80 + n % 64)) = true ∧
      payload (UInt8.ofNat (0x80 + n % 64)) = n % 64 := by
  have hn : (UInt8.ofNat (0x80 + n % 64)).toNat = 0x80 + n % 64 := toNat_byte (by omega)
  constructor
  · simp only [isContinuation, Bool.and_eq_true, decide_eq_true_eq, UInt8.le_iff_toNat_le, hn,
      UInt8.reduceToNat]
    omega
  · rw [payload, hn]
    omega

/-- A continuation byte may follow a first byte unless one of the four narrow ranges forbids
it. -/
theorem isSecond_of {a b : UInt8} (hb : isContinuation b = true)
    (hE0 : a.toNat = 0xE0 → 0xA0 ≤ b.toNat) (hED : a.toNat = 0xED → b.toNat ≤ 0x9F)
    (hF0 : a.toNat = 0xF0 → 0x90 ≤ b.toNat) (hF4 : a.toNat = 0xF4 → b.toNat ≤ 0x8F) :
    isSecond a b = true := by
  simp only [isContinuation, Bool.and_eq_true, decide_eq_true_eq, UInt8.le_iff_toNat_le,
    UInt8.reduceToNat] at hb
  simp only [isSecond, isContinuation, ← UInt8.toNat_inj, UInt8.le_iff_toNat_le,
    UInt8.reduceToNat]
  repeat' split
  all_goals simp; omega

/-! ## 2. One character, by width -/

theorem pieces_one {a : UInt8} (ha : a.toNat < 0x80) (rest : Bytes) :
    pieces (a :: rest) = .char ⟨a.toNat⟩ 1 :: pieces rest := by
  have h₁ : a < 0x80 := UInt8.lt_iff_toNat_lt.mpr ha
  rw [pieces.eq_def]
  simp only [h₁, if_true]

theorem pieces_two {a b : UInt8} (ha : 0xC2 ≤ a.toNat) (ha' : a.toNat ≤ 0xDF)
    (hb : isContinuation b = true) (rest : Bytes) :
    pieces (a :: b :: rest) =
      .char ⟨(a.toNat - 0xC0) * 64 + payload b⟩ 2 :: pieces rest := by
  have h₁ : ¬ a < 0x80 := by rw [UInt8.lt_iff_toNat_lt]; simp; omega
  have h₂ : (0xC2 ≤ a && a ≤ 0xDF) = true := by simp [UInt8.le_iff_toNat_le]; omega
  rw [pieces.eq_def]
  simp only [h₁, h₂, hb, if_true, if_false]

theorem pieces_three {a b c : UInt8} (ha : 0xE0 ≤ a.toNat) (ha' : a.toNat ≤ 0xEF)
    (hb : isSecond a b = true) (hc : isContinuation c = true) (rest : Bytes) :
    pieces (a :: b :: c :: rest) =
      .char ⟨(a.toNat - 0xE0) * 4096 + payload b * 64 + payload c⟩ 3 :: pieces rest := by
  have h₁ : ¬ a < 0x80 := by rw [UInt8.lt_iff_toNat_lt]; simp; omega
  have h₂ : (0xC2 ≤ a && a ≤ 0xDF) = false := by simp [UInt8.lt_iff_toNat_lt]; omega
  have h₃ : (0xE0 ≤ a && a ≤ 0xEF) = true := by simp [UInt8.le_iff_toNat_le]; omega
  rw [pieces.eq_def]
  simp only [h₁, h₂, h₃, hb, hc, Bool.false_eq_true, if_true, if_false]

theorem pieces_four {a b c d : UInt8} (ha : 0xF0 ≤ a.toNat) (ha' : a.toNat ≤ 0xF4)
    (hb : isSecond a b = true) (hc : isContinuation c = true) (hd : isContinuation d = true)
    (rest : Bytes) :
    pieces (a :: b :: c :: d :: rest) =
      .char ⟨(a.toNat - 0xF0) * 262144 + payload b * 4096 + payload c * 64 + payload d⟩ 4 ::
        pieces rest := by
  have h₁ : ¬ a < 0x80 := by rw [UInt8.lt_iff_toNat_lt]; simp; omega
  have h₂ : (0xC2 ≤ a && a ≤ 0xDF) = false := by simp [UInt8.lt_iff_toNat_lt]; omega
  have h₃ : (0xE0 ≤ a && a ≤ 0xEF) = false := by simp [UInt8.lt_iff_toNat_lt]; omega
  have h₄ : (0xF0 ≤ a && a ≤ 0xF4) = true := by simp [UInt8.le_iff_toNat_le]; omega
  rw [pieces.eq_def]
  simp only [h₁, h₂, h₃, h₄, hb, hc, hd, Bool.false_eq_true, if_true, if_false]

/-- The bytes of a character are cut off as that character, whatever follows. -/
theorem pieces_encodeChar {c : CodePoint} (hc : c.isScalar = true) (rest : Bytes) :
    pieces (encodeChar c ++ rest) = .char c (encodeChar c).length :: pieces rest := by
  obtain ⟨n⟩ := c
  simp only [CodePoint.isScalar, Bool.or_eq_true, Bool.and_eq_true, decide_eq_true_eq] at hc
  obtain ⟨h₁, p₁⟩ := continuation_spec n
  obtain ⟨h₂, p₂⟩ := continuation_spec (n / 64)
  obtain ⟨h₃, p₃⟩ := continuation_spec (n / 4096)
  have t₂ : (UInt8.ofNat (0x80 + n / 64 % 64)).toNat = 0x80 + n / 64 % 64 :=
    toNat_byte (by omega)
  have t₃ : (UInt8.ofNat (0x80 + n / 4096 % 64)).toNat = 0x80 + n / 4096 % 64 :=
    toNat_byte (by omega)
  by_cases one : n < 0x80
  · have ha : (UInt8.ofNat n).toNat = n := toNat_byte (by omega)
    simp only [encodeChar, one, if_true, List.cons_append, List.nil_append]
    rw [pieces_one (by omega), ha]
    rfl
  by_cases two : n < 0x800
  · have ha : (UInt8.ofNat (0xC0 + n / 64)).toNat = 0xC0 + n / 64 := toNat_byte (by omega)
    have hn : (0xC0 + n / 64 - 0xC0) * 64 + n % 64 = n := by omega
    simp only [encodeChar, one, two, if_true, if_false, List.cons_append, List.nil_append]
    rw [pieces_two (by omega) (by omega) h₁, ha, p₁, hn]
    rfl
  by_cases three : n < 0x10000
  · have ha : (UInt8.ofNat (0xE0 + n / 4096)).toNat = 0xE0 + n / 4096 := toNat_byte (by omega)
    -- `n ≥ 0x800` rules the overlong form out, and `n` being a scalar the surrogates.
    have hs : isSecond (UInt8.ofNat (0xE0 + n / 4096)) (UInt8.ofNat (0x80 + n / 64 % 64)) = true :=
      isSecond_of h₂ (by omega) (by omega) (by omega) (by omega)
    have hn : (0xE0 + n / 4096 - 0xE0) * 4096 + n / 64 % 64 * 64 + n % 64 = n := by omega
    simp only [encodeChar, one, two, three, if_true, if_false, List.cons_append, List.nil_append]
    rw [pieces_three (by omega) (by omega) hs h₁, ha, p₁, p₂, hn]
    rfl
  · have ha : (UInt8.ofNat (0xF0 + n / 262144)).toNat = 0xF0 + n / 262144 :=
      toNat_byte (by omega)
    have hs : isSecond (UInt8.ofNat (0xF0 + n / 262144))
        (UInt8.ofNat (0x80 + n / 4096 % 64)) = true :=
      isSecond_of h₃ (by omega) (by omega) (by omega) (by omega)
    have hn : (0xF0 + n / 262144 - 0xF0) * 262144 + n / 4096 % 64 * 4096 + n / 64 % 64 * 64 +
        n % 64 = n := by omega
    simp only [encodeChar, one, two, three, if_false, List.cons_append, List.nil_append]
    rw [pieces_four (by omega) (by omega) hs h₂ h₁, ha, p₁, p₂, p₃, hn]
    rfl

/-! ## 3. Whole texts -/

/-- The positions only tell where an error lies, so the two sides may count from different
places. -/
theorem join_pieces_encodeFrom {t : Text} : ∀ {position : Nat} {bytes : Bytes} (start : Nat),
    encodeFrom position t = .ok bytes → join start (pieces bytes) = .ok t := by
  induction t with
  | nil =>
    intro position bytes start h
    simp only [encodeFrom, Except.ok.injEq] at h
    subst h
    simp [pieces, join]
  | cons c rest ih =>
    intro position bytes start h
    rw [encodeFrom] at h
    split at h
    · next hc =>
      split at h
      · next tail htail =>
        simp only [Except.ok.injEq] at h
        subst h
        rw [pieces_encodeChar hc, join, ih _ htail]
      · exact absurd h (by simp)
    · exact absurd h (by simp)

/-- **Round trip**: what text is written as is read back as that text. -/
theorem decode_encode {t : Text} {bytes : Bytes} (h : encode t = .ok bytes) :
    decode bytes = .ok t :=
  join_pieces_encodeFrom 0 h

end LintMend.Utf8
