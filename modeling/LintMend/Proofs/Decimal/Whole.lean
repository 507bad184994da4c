/-
LintMend.Proofs.Decimal.Whole — binary numbers that are whole.

The bits of a finite binary number are those of its sign, its mantissa and its exponent. What they
say of its value is exact, so a number is read as an integer just when its value is one; and two
numbers are equal just when their values are, since each value has one mantissa and exponent.

  `valueOf?_eq`            — the value of a number, by its bits
  `intOfFloat?_eq_some_iff` — the numbers that are whole
  `beq_iff_valueOf?`       — equality of numbers
  `intOfFloat?_zero_iff`, `intOfFloat?_one_iff` — the numbers that are zero and one
-/
import LintMend.Proofs.Decimal.PowerOfTwo

namespace LintMend

open Float.Model (Format UnpackedFloat)
open Float.Model.UnpackedFloat

variable {x y : Float} {n : Int}

/-! ## 1. Bits -/

/-- The sign in the bits of a number. -/
def signOf (x : Float) : Sign :=
  if x.toBits.toNat / 2 ^ 63 = 1 then .negative else .positive

/-- The exponent as it stands in the bits. -/
def exponentBitsOf (x : Float) : Nat :=
  x.toBits.toNat / 2 ^ 52 % 2 ^ 11

/-- The mantissa: the fraction in the bits, with the leading one that they leave out. -/
def mantissaOf (x : Float) : Nat :=
  if exponentBitsOf x = 0 then x.toBits.toNat % 2 ^ 52 else 2 ^ 52 + x.toBits.toNat % 2 ^ 52

/-- The exponent of the mantissa's last bit. -/
def exponentOf (x : Float) : Int :=
  if exponentBitsOf x = 0 then -1074 else exponentBitsOf x - 1075

theorem toNat_unpackMantissa (b : BitVec Format.binary64.numBits) :
    (unpackMantissa b).toNat = b.toNat % 2 ^ 52 := by
  simp [unpackMantissa, BitVec.extractLsb, BitVec.extractLsb'_toNat]

theorem toNat_unpackExponent (b : BitVec Format.binary64.numBits) :
    (unpackExponent b).toNat = b.toNat / 2 ^ 52 % 2 ^ 11 := by
  simp [unpackExponent, BitVec.extractLsb, BitVec.extractLsb'_toNat, Nat.shiftRight_eq_div_pow]

theorem ofBitVec_unpackSign (b : BitVec Format.binary64.numBits) :
    Sign.ofBitVec (unpackSign b) = if b.toNat / 2 ^ 63 = 1 then .negative else .positive := by
  have hlt : b.toNat < 2 ^ 64 := b.isLt
  have hbit : (unpackSign b).toNat = b.toNat / 2 ^ 63 := by
    simp [unpackSign, BitVec.extractLsb, BitVec.extractLsb'_toNat, Nat.shiftRight_eq_div_pow]
    omega
  have hzero : unpackSign b = 0#1 ↔ b.toNat / 2 ^ 63 = 0 := by
    rw [← hbit]
    exact ⟨fun h => congrArg BitVec.toNat h, fun h => BitVec.eq_of_toNat_eq h⟩
  rw [Sign.ofBitVec]
  by_cases hone : b.toNat / 2 ^ 63 = 1
  · rw [if_pos hone, if_neg (by rw [hzero]; omega)]
  · rw [if_neg hone, if_pos (hzero.mpr (by omega))]

/-- **What the bits of a number stand for.** -/
inductive Unpacked (x : Float) : UnpackedFloat → Prop where
  | infinity (h : exponentBitsOf x = 2047) : Unpacked x (.infinity (signOf x))
  | notANumber (h : exponentBitsOf x = 2047) : Unpacked x .notANumber
  | zero (h : exponentBitsOf x ≠ 2047) (hm : mantissaOf x = 0) : Unpacked x (.zero (signOf x))
  | finite (h : exponentBitsOf x ≠ 2047) (hm : 0 < mantissaOf x) :
      Unpacked x (.finite (signOf x) (mantissaOf x) (exponentOf x) hm)

theorem eq_ofNat_iff {k m : Nat} (b : BitVec k) (hm : m < 2 ^ k) :
    b = BitVec.ofNat k m ↔ b.toNat = m := by
  constructor
  · rintro rfl
    rw [BitVec.toNat_ofNat, Nat.mod_eq_of_lt hm]
  · rintro rfl
    rw [BitVec.ofNat_toNat, BitVec.setWidth_eq]

theorem leadingOne (b : BitVec 52) : (1#1 ++ b).toNat = 2 ^ 52 + b.toNat := by
  rw [BitVec.toNat_append, ← Nat.shiftLeft_add_eq_or_of_lt b.isLt]
  rfl

namespace Unpacked

/-- The smallest numbers have no leading one. -/
theorem subnormal (h : exponentBitsOf x = 0) (hpos : 0 < x.toBits.toNat % 2 ^ 52) :
    Unpacked x (.finite (signOf x) (x.toBits.toNat % 2 ^ 52) (-1074) hpos) := by
  have hm : mantissaOf x = x.toBits.toNat % 2 ^ 52 := by rw [mantissaOf, if_pos h]
  have he : exponentOf x = -1074 := by rw [exponentOf, if_pos h]
  have hfinite := Unpacked.finite (x := x) (by omega) (hm ▸ hpos)
  simp only [hm, he] at hfinite
  exact hfinite

/-- The others have one. -/
theorem normal (h : exponentBitsOf x ≠ 2047) (hnormal : exponentBitsOf x ≠ 0) :
    Unpacked x (.finite (signOf x) (2 ^ 52 + x.toBits.toNat % 2 ^ 52)
      (exponentBitsOf x - 1075) (by omega)) := by
  have hm : mantissaOf x = 2 ^ 52 + x.toBits.toNat % 2 ^ 52 := by rw [mantissaOf, if_neg hnormal]
  have he : exponentOf x = exponentBitsOf x - 1075 := by rw [exponentOf, if_neg hnormal]
  have hfinite := Unpacked.finite h (by omega)
  simp only [hm, he] at hfinite
  exact hfinite

end Unpacked

theorem unpacked (x : Float) : Unpacked x x.toModel.unpack := by
  have hmantissa := toNat_unpackMantissa x.toModel.toBits.toBitVec
  have hexponent := toNat_unpackExponent x.toModel.toBits.toBitVec
  have hsign := ofBitVec_unpackSign x.toModel.toBits.toBitVec
  change _ = x.toBits.toNat % 2 ^ 52 at hmantissa
  change _ = exponentBitsOf x at hexponent
  change _ = signOf x at hsign
  -- the three tests of the bits, as tests of numbers
  have hlast := eq_ofNat_iff (m := 2047)
    (@unpackExponent Format.binary64 x.toModel.toBits.toBitVec) (by decide)
  have hfirst := eq_ofNat_iff (m := 0)
    (@unpackExponent Format.binary64 x.toModel.toBits.toBitVec) (by decide)
  have hnone := eq_ofNat_iff (m := 0)
    (@unpackMantissa Format.binary64 x.toModel.toBits.toBitVec) (by decide)
  rw [hexponent] at hlast hfirst
  rw [hmantissa] at hnone
  show Unpacked x (UnpackedFloat.unpack Format.binary64 x.toModel.toBits.toBitVec)
  unfold UnpackedFloat.unpack
  simp only [hsign]
  split
  case isTrue h =>
    have h := hlast.mp h
    split
    · exact .infinity h
    · exact .notANumber h
  case isFalse h =>
    have h : exponentBitsOf x ≠ 2047 := fun hall => h (hlast.mpr hall)
    split
    case isTrue hsub =>
      have hsub := hfirst.mp hsub
      split
      case isTrue hzero =>
        refine .zero h ?_
        rw [mantissaOf, if_pos hsub]
        exact hnone.mp hzero
      case isFalse hzero =>
        have hpos := Nat.pos_of_ne_zero fun hzero' => hzero (hnone.mpr hzero')
        simp only [hmantissa, hexponent, hsub]
        exact .subnormal hsub hpos
    case isFalse hnormal =>
      simp only [leadingOne, hmantissa, hexponent]
      exact .normal h fun hsub => hnormal (hfirst.mpr hsub)

/-! ## 2. Values -/

/-- **The value of a number, by its bits.** -/
theorem valueOf?_eq (x : Float) : valueOf? x =
    if exponentBitsOf x = 2047 then none
    else some ((signOf x).apply (mantissaOf x) * (2 : ℚ) ^ exponentOf x) := by
  have hunpacked := unpacked x
  rw [valueOf?]
  cases hu : x.toModel.unpack <;> rw [hu] at hunpacked <;> cases hunpacked
  case infinity h => rw [if_pos h]
  case notANumber h => rw [if_pos h]
  case zero h hm =>
    rw [if_neg h, hm]
    cases signOf x <;> simp [Sign.apply]
  case finite => rw [if_neg (by assumption)]

/-- The integer that a number is, by its bits. -/
theorem intOfFloat?_eq (x : Float) : intOfFloat? x =
    if exponentBitsOf x = 2047 then none
    else
      match exponentOf x with
      | .ofNat e => some ((signOf x).apply (mantissaOf x * 2 ^ e : Nat))
      | .negSucc e =>
        if mantissaOf x % 2 ^ (e + 1) = 0 then
          some ((signOf x).apply (mantissaOf x / 2 ^ (e + 1) : Nat))
        else none := by
  have hsign : ∀ k : Nat, (if x.toBits.toNat / Nat.pow 2 63 = 1 then -(k : Int) else k) =
      (signOf x).apply k := by
    intro k
    rw [signOf]
    show (if x.toBits.toNat / 2 ^ 63 = 1 then _ else _) = _
    split <;> rfl
  unfold intOfFloat?
  simp only [hsign]
  rfl

/-- An integer times a power of two is an integer if the power is one, or divides it. -/
theorem apply_mul_two_pow (s : Sign) (m : Nat) (q : Int) :
    ((s.apply m : ℤ) : ℚ) * (2 : ℚ) ^ q = n ↔
      (match q with
      | .ofNat e => some (s.apply (m * 2 ^ e : Nat))
      | .negSucc e => if m % 2 ^ (e + 1) = 0 then some (s.apply (m / 2 ^ (e + 1) : Nat)) else none) =
        some n := by
  have happly : ∀ j k : Nat, s.apply (j * k : Nat) = s.apply j * k := by
    intro j k
    cases s <;> simp [Sign.apply]
  cases q with
  | ofNat e =>
    show ((s.apply m : ℤ) : ℚ) * (2 : ℚ) ^ (e : ℤ) = n ↔ some (s.apply (m * 2 ^ e : Nat)) = some n
    rw [zpow_natCast, Option.some.injEq, happly]
    norm_cast
  | negSucc e =>
    show ((s.apply m : ℤ) : ℚ) * (2 : ℚ) ^ (Int.negSucc e) = n ↔
      (if m % 2 ^ (e + 1) = 0 then some (s.apply (m / 2 ^ (e + 1) : Nat)) else none) = some n
    have hpos : (0 : ℚ) < 2 ^ (e + 1) := by positivity
    have hwhole : ((s.apply m : ℤ) : ℚ) * (2 : ℚ) ^ (Int.negSucc e) = n ↔
        s.apply m = n * 2 ^ (e + 1) := by
      rw [zpow_negSucc, ← div_eq_mul_inv, div_eq_iff hpos.ne']
      norm_cast
    have hsplit : ∀ k : Nat, s.apply (k * 2 ^ (e + 1) : Nat) = n * 2 ^ (e + 1) ↔ s.apply k = n := by
      intro k
      rw [happly]
      push_cast
      exact mul_left_inj' (by positivity)
    have hsize : (s.apply m).natAbs = m := by cases s <;> simp [Sign.apply]
    rw [hwhole]
    -- a fraction is whole just when its denominator divides
    by_cases hdvd : 2 ^ (e + 1) ∣ m
    · obtain ⟨k, rfl⟩ := hdvd
      rw [if_pos (Nat.mul_mod_right _ _), Nat.mul_div_cancel_left _ (Nat.two_pow_pos _), mul_comm,
        hsplit, Option.some.injEq]
    · rw [if_neg (mt Nat.dvd_of_mod_eq_zero hdvd)]
      refine iff_of_false ?_ nofun
      intro hproduct
      have hfactor : ((2 ^ (e + 1) : Nat) : ℤ) ∣ s.apply m := ⟨n, by rw [hproduct]; push_cast; ring⟩
      rw [Int.natCast_dvd, hsize] at hfactor
      exact hdvd hfactor

/-- **A number is read as an integer just when that is its value.** -/
theorem intOfFloat?_eq_some_iff : intOfFloat? x = some n ↔ valueOf? x = some (n : ℚ) := by
  rw [intOfFloat?_eq, valueOf?_eq]
  by_cases h : exponentBitsOf x = 2047
  · simp [h]
  · rw [if_neg h, if_neg h, Option.some.injEq, apply_mul_two_pow]

/-! ## 3. Equality -/

theorem mantissaOf_lt (x : Float) : mantissaOf x < 2 ^ 53 := by
  rw [mantissaOf]
  split <;> omega

theorem exponentOf_ge (x : Float) : -1074 ≤ exponentOf x := by
  rw [exponentOf]
  split <;> omega

/-- Numbers above the smallest ones have a full mantissa. -/
theorem le_mantissaOf (h : -1074 < exponentOf x) : 2 ^ 52 ≤ mantissaOf x := by
  rw [exponentOf] at h
  rw [mantissaOf]
  split at h
  · omega
  · rw [if_neg (by assumption)]
    omega

/-- A full mantissa leaves no choice of the exponent. -/
theorem exponent_le_of_eq {m k : Nat} {d e : Int} (hm : m < 2 ^ 53)
    (hk : -1074 < e → 2 ^ 52 ≤ k) (hd : -1074 ≤ d)
    (h : (m : ℚ) * 2 ^ d = k * 2 ^ e) : e ≤ d := by
  by_contra hlt
  obtain ⟨gap, hgap⟩ := Int.eq_ofNat_of_zero_le (show 0 ≤ e - d - 1 by omega)
  have hexponent : e = d + (gap + 1 : Nat) := by omega
  have hpos : (0 : ℚ) < 2 ^ d := by positivity
  have hmantissa : m = k * 2 ^ (gap + 1) := by
    rw [hexponent, zpow_add₀ (by norm_num), zpow_natCast, mul_comm ((2 : ℚ) ^ d), ← mul_assoc] at h
    exact_mod_cast mul_right_cancel₀ hpos.ne' h
  have hfull := hk (by omega)
  have hgrown : k * 2 ≤ k * 2 ^ (gap + 1) :=
    Nat.mul_le_mul_left k (Nat.le_self_pow (Nat.succ_ne_zero gap) 2)
  omega

/-- The sizes of two numbers are the same just when their mantissas and exponents are. -/
theorem size_eq_iff : (mantissaOf x : ℚ) * 2 ^ exponentOf x = mantissaOf y * 2 ^ exponentOf y ↔
    exponentOf x = exponentOf y ∧ mantissaOf x = mantissaOf y := by
  constructor
  · intro h
    have hge := exponent_le_of_eq (mantissaOf_lt x) le_mantissaOf (exponentOf_ge x) h
    have hle := exponent_le_of_eq (mantissaOf_lt y) le_mantissaOf (exponentOf_ge y) h.symm
    have he : exponentOf x = exponentOf y := le_antisymm hle hge
    rw [he] at h
    have hpos : (0 : ℚ) < 2 ^ exponentOf y := by positivity
    exact ⟨he, by exact_mod_cast mul_right_cancel₀ hpos.ne' h⟩
  · rintro ⟨he, hm⟩
    rw [he, hm]

theorem then_eq_iff {d e : Int} {m k : Nat} :
    (compare d e).then (compare m k) = .eq ↔ d = e ∧ m = k := by
  rw [Ordering.then_eq_eq, Std.compare_eq_iff_eq, Std.compare_eq_iff_eq]

theorem apply_mul_ne_zero (s : Sign) {m : Nat} (hm : 0 < m) (e : Int) :
    (s.apply m : ℚ) * 2 ^ e ≠ 0 := by
  have happly : (s.apply m : ℚ) ≠ 0 := by
    cases s <;> simp [Sign.apply, hm.ne']
  exact mul_ne_zero happly (by positivity)

/-- Numbers with a mantissa are equal just when their values are. -/
theorem compare_finite (hx : 0 < mantissaOf x) (hy : 0 < mantissaOf y) :
    UnpackedFloat.compare (.finite (signOf x) (mantissaOf x) (exponentOf x) hx)
        (.finite (signOf y) (mantissaOf y) (exponentOf y) hy) = some .eq ↔
      ((signOf x).apply (mantissaOf x) : ℚ) * 2 ^ exponentOf x =
        (signOf y).apply (mantissaOf y) * 2 ^ exponentOf y := by
  have hxpos : (0 : ℚ) < mantissaOf x * 2 ^ exponentOf x := by positivity
  have hypos : (0 : ℚ) < mantissaOf y * 2 ^ exponentOf y := by positivity
  cases signOf x <;> cases signOf y
  case negative.negative =>
    have hnegated : ((Sign.negative.apply (mantissaOf x) : ℤ) : ℚ) * 2 ^ exponentOf x =
        (Sign.negative.apply (mantissaOf y) : ℤ) * 2 ^ exponentOf y ↔
        (mantissaOf x : ℚ) * 2 ^ exponentOf x = mantissaOf y * 2 ^ exponentOf y := by
      simp [Sign.apply]
    rw [hnegated, size_eq_iff, ← then_eq_iff]
    simp [UnpackedFloat.compare]
  case negative.positive =>
    refine iff_of_false nofun ?_
    simp only [Sign.apply]
    push_cast
    intro h
    linarith
  case positive.negative =>
    refine iff_of_false nofun ?_
    simp only [Sign.apply]
    push_cast
    intro h
    linarith
  case positive.positive =>
    have hsize := size_eq_iff (x := x) (y := y)
    simp only [Sign.apply, Int.cast_natCast]
    rw [hsize, ← then_eq_iff]
    simp [UnpackedFloat.compare]

/-- **A number is equal to a finite one just when it has the same value.** -/
theorem beq_iff_valueOf? {v : ℚ} (hy : valueOf? y = some v) :
    (x == y) = true ↔ valueOf? x = some v := by
  have hcompare : (x == y) =
      (UnpackedFloat.compare x.toModel.unpack y.toModel.unpack == some .eq) := rfl
  have hx := unpacked x
  have hy' := unpacked y
  rw [hcompare, beq_iff_eq, ← hy]
  unfold valueOf? at hy ⊢
  generalize x.toModel.unpack = u at hx ⊢
  generalize y.toModel.unpack = w at hy hy' ⊢
  cases hy' with
  | infinity => exact nomatch hy
  | notANumber => exact nomatch hy
  | zero =>
    cases hx with
    | infinity => cases signOf x <;> exact iff_of_false nofun nofun
    | notANumber => exact iff_of_false nofun nofun
    | zero => exact iff_of_true rfl rfl
    | finite h hm =>
      refine iff_of_false (by cases signOf x <;> exact nofun) ?_
      intro heq
      exact apply_mul_ne_zero _ hm _ (Option.some.inj heq)
  | finite h hm =>
    cases hx with
    | infinity => cases signOf x <;> exact iff_of_false nofun nofun
    | notANumber => exact iff_of_false nofun nofun
    | zero =>
      refine iff_of_false (by cases signOf y <;> exact nofun) ?_
      intro heq
      exact apply_mul_ne_zero _ hm _ (Option.some.inj heq).symm
    | finite h' hm' =>
      rw [compare_finite hm' hm]
      exact Option.some.injEq .. ▸ Iff.rfl

/-! ## 4. Zero and one -/

theorem valueOf?_zero : valueOf? 0.0 = some 0 := by
  have hunpack : (0.0 : Float).toModel.unpack = .zero .positive := by rfl
  rw [valueOf?, hunpack]

theorem valueOf?_one : valueOf? 1.0 = some 1 := by
  have hunpack : (1.0 : Float).toModel.unpack = .finite .positive (2 ^ 52) (-52) (by decide) := by rfl
  rw [valueOf?, hunpack]
  show some (((2 ^ 52 : ℕ) : ℤ) * (2 : ℚ) ^ (-52 : ℤ)) = _
  norm_num

/-- The numbers that are read as zero, of either sign. -/
theorem intOfFloat?_zero_iff : intOfFloat? x = some 0 ↔ (x == 0.0) = true := by
  rw [intOfFloat?_eq_some_iff, beq_iff_valueOf? valueOf?_zero, Int.cast_zero]

/-- The number that is read as one. -/
theorem intOfFloat?_one_iff : intOfFloat? x = some 1 ↔ (x == 1.0) = true := by
  rw [intOfFloat?_eq_some_iff, beq_iff_valueOf? valueOf?_one, Int.cast_one]

end LintMend
