/-
LintMend.Proofs.Decimal.PowerOfTwo — powers of two as binary numbers.

A power of two in the range of binary numbers is one of them, with its exponent and no other bits,
so reading it and multiplying it by another are exact. Beyond the range it is infinite, or not
read at all.

  `valueOf?`                    — the rational number that a binary number is
  `roundWithAccuracy_twoPower`  — rounding a power of two keeps it
  `pack_twoPower`               — its bits
  `floatOfInt?_two_pow`         — reading one
  `floatTwoPower_mul`           — the product of two, and `not_floatTwoPower_le_ten` a comparison
-/
import LintMend.Decimal.Reading
import Mathlib

namespace LintMend

open Float.Model (Format UnpackedFloat)
open Float.Model.UnpackedFloat

/-! ## 1. Values -/

/-- The rational number that a binary number is; `none` for an infinite one and for what is no
number. -/
def valueOf? (x : Float) : Option ℚ :=
  match x.toModel.unpack with
  | .finite sign mantissa exponent _ => some (sign.apply mantissa * (2 : ℚ) ^ exponent)
  | .zero _ => some 0
  | .infinity _ => none
  | .notANumber => none

/-- The parts of the binary number `2 ^ e`. -/
def twoPower (e : Int) : UnpackedFloat :=
  .finite .positive (2 ^ 52) (e - 52) (Nat.two_pow_pos 52)

/-! ## 2. Rounding -/

theorem shiftRight_two_pow (k n : Nat) :
    (ExtendedMantissa.mk (2 ^ (k + n)) false false) >>> n = ⟨2 ^ k, false, false⟩ := by
  induction n generalizing k with
  | zero => rfl
  | succ n ih =>
    have hnext : k + (n + 1) = k + 1 + n := by omega
    show ExtendedMantissa.shiftRightOne (ExtendedMantissa.mk (2 ^ (k + (n + 1))) _ _ >>> n) = _
    rw [hnext, ih]
    simp [ExtendedMantissa.shiftRightOne, Nat.pow_succ]

variable {e : Int}

/-- A power of two with too many bits is shifted to the ones that are wanted, and loses none. -/
theorem shiftToTargetExponent_two_pow (k : Nat) (hlow : -1022 ≤ (52 + k : Nat) + e) :
    shiftToTargetExponent Format.binary64 (2 ^ (52 + k)) e .exact =
      (⟨2 ^ 52, false, false⟩, e + k) := by
  have htarget : Format.binary64.targetExponent (Float.Model.totalExponent (2 ^ (52 + k)) e) =
      e + k := by
    simp only [Format.targetExponent, Float.Model.totalExponent, Nat.log2_two_pow,
      Format.mantissaBits, Format.minExponent]
    norm_num
    omega
  have hshift : (e + k - e).toNat = k := by omega
  simp only [shiftToTargetExponent, htarget, shiftToExponent, hshift,
    ExtendedMantissa.ofMantissaAndAccuracy, shiftRight_two_pow]

/-- **Rounding keeps a power of two.** -/
theorem roundWithAccuracy_twoPower (k : Nat) (hlow : -1022 ≤ (52 + k : Nat) + e) :
    roundWithAccuracy Format.binary64 .positive (2 ^ (52 + k)) e .exact =
      twoPower ((52 + k : Nat) + e) := by
  have hagain := shiftToTargetExponent_two_pow 0 (e := e + k) (by omega)
  have hround : (ExtendedMantissa.mk (2 ^ 52) false false).roundedMantissa = 2 ^ (52 + 0) := rfl
  have hexponent : e + k + ((0 : Nat) : Int) = (52 + k : Nat) + e - 52 := by omega
  simp only [roundWithAccuracy, shiftToTargetExponent_two_pow k hlow, hround, hagain, hexponent]
  rfl

/-- The product of powers of two. -/
theorem mul_eq_twoPower {m n : Nat} {d : Int} (hm : 0 < m) (hn : 0 < n) (k : Nat)
    (hproduct : m * n = 2 ^ (52 + k)) (hlow : -1022 ≤ (52 + k : Nat) + (e + d)) :
    UnpackedFloat.mul Format.binary64 (.finite .positive m e hm) (.finite .positive n d hn) =
      twoPower ((52 + k : Nat) + (e + d)) := by
  show roundWithAccuracy _ _ (m * n) (e + d) _ = _
  rw [hproduct]
  exact roundWithAccuracy_twoPower k hlow

/-! ## 3. Bits -/

/-- **The bits of a power of two** are its exponent alone, and those of infinity out of range. -/
theorem pack_twoPower (hlow : -1022 ≤ e) :
    UnpackedFloat.pack Format.binary64 (twoPower e) =
      if e ≤ 1023 then
        packComponents Format.binary64 .positive (BitVec.ofNat 11 (e + 1023).toNat) 0#52
      else packedInfinity Format.binary64 .positive := by
  have hbias : e - 52 + ((Format.exponentBias Format.binary64 : Nat) : Int) +
      ((52 : Nat) : Int) = e + 1023 := by
    simp only [Format.exponentBias]
    omega
  have hlog : Nat.log2 (2 ^ 52) = 52 := Nat.log2_two_pow
  have hmantissa : BitVec.ofNat 52 (2 ^ 52) = 0#52 := rfl
  simp only [twoPower, UnpackedFloat.pack, hbias, hlog, hmantissa]
  split
  · rw [if_neg (by omega)]
  · have hbits : 52 + 1 = Format.mantissaBits Format.binary64 := rfl
    rw [if_pos hbits, if_pos (by omega)]

theorem sign_packComponents (exponent : BitVec 11) (mantissa : BitVec 52) :
    Sign.ofBitVec (unpackSign (packComponents Format.binary64 .positive exponent mantissa)) =
      .positive := by
  have hsign : unpackSign (packComponents Format.binary64 .positive exponent mantissa) = 0#1 := by
    simp only [unpackSign, packComponents, BitVec.extractLsb, Sign.toBitVec]
    ext i hi
    grind
  rw [hsign]
  rfl

theorem unpack_twoPower (hlow : -1022 ≤ e) (hhigh : e ≤ 1023) :
    (Float.Model.pack (twoPower e)).unpack = twoPower e := by
  obtain ⟨n, hn⟩ := Int.eq_ofNat_of_zero_le (by omega : 0 ≤ e + 1023)
  have hsmall : (BitVec.ofNat 11 n).toNat = n := by
    rw [BitVec.toNat_ofNat, Nat.mod_eq_of_lt (by omega)]
  have hnumber : BitVec.ofNat 11 n ≠ -1#11 := by
    intro h
    have hall : (BitVec.ofNat 11 n).toNat = 2047 := congrArg BitVec.toNat h
    omega
  have hnormal : BitVec.ofNat 11 n ≠ 0#11 := by
    intro h
    have hnone : (BitVec.ofNat 11 n).toNat = 0 := congrArg BitVec.toNat h
    omega
  show UnpackedFloat.unpack _ (UnpackedFloat.pack Format.binary64 (twoPower e)) = _
  rw [pack_twoPower hlow, if_pos hhigh, hn, Int.toNat_natCast]
  simp only [UnpackedFloat.unpack, unpackMantissa_packComponents, unpackExponent_packComponents,
    sign_packComponents, if_neg hnumber, if_neg hnormal, hsmall, twoPower]
  congr 1
  simp only [Format.exponentBias]
  omega

/-- The binary number `2 ^ e`, if it is in range. -/
def floatTwoPower (e : Int) : Float :=
  .ofModel (.pack (twoPower e))

theorem valueOf?_twoPower (hlow : -1022 ≤ e) (hhigh : e ≤ 1023) :
    valueOf? (floatTwoPower e) = some ((2 : ℚ) ^ e) := by
  have hsplit : (2 : ℚ) ^ (52 : ℕ) * 2 ^ (e - 52) = 2 ^ e := by
    rw [← zpow_natCast, ← zpow_add₀ (by norm_num)]
    congr 1
    push_cast
    omega
  have hparts : (floatTwoPower e).toModel.unpack = twoPower e := unpack_twoPower hlow hhigh
  rw [valueOf?, hparts]
  show some (((2 ^ 52 : ℕ) : ℤ) * (2 : ℚ) ^ (e - 52)) = _
  rw [← hsplit]
  norm_num

theorem floatTwoPower_eq_infinity (hhigh : 1023 < e) : floatTwoPower e = infinity := by
  have hpack := pack_twoPower (e := e) (by omega)
  rw [if_neg (by omega)] at hpack
  have hbits : (Float.Model.pack (twoPower e)).toBits = infinity.toModel.toBits := by
    show UInt64.ofBitVec (UnpackedFloat.pack Format.binary64 (twoPower e)) = _
    rw [hpack]
    decide +kernel
  exact congrArg Float.ofModel ((Float.Model.mk.injEq ..).mpr hbits)

/-! ## 4. Reading -/

/-- Reading a power of two that is not among the small numbers. -/
theorem ofScientific_two_pow {k : Nat} (hk : 53 ≤ k) :
    Float.ofScientific (2 ^ k) false 0 = floatTwoPower k := by
  have hlarge : ¬ (2 ^ k < 2 ^ 53 ∧ 0 ≤ 22) := by
    have hle : 2 ^ 53 ≤ 2 ^ k := Nat.pow_le_pow_right (by decide) hk
    omega
  have hpos : ¬ 2 ^ k = 0 := (Nat.two_pow_pos k).ne'
  have hbits : 2 ^ k <<< 53 * 1 = 2 ^ (52 + (k + 1)) := by
    rw [Nat.mul_one, Nat.shiftLeft_eq, ← Nat.pow_add]
    congr 1
    omega
  have hnothuge : ¬ (0 : Int) > 2 ^ 11 := by decide
  have hnottiny : ¬ (0 : Int) < -(2 ^ 11 + (Nat.log2 (2 ^ k) : Int)) := by
    rw [Nat.log2_two_pow]
    omega
  have hexponent : ((52 + (k + 1) : Nat) : Int) + (-53 + 0) = k := by omega
  have hparts : UnpackedFloat.ofScientific Format.binary64 (2 ^ k) 0 = twoPower k := by
    rw [UnpackedFloat.ofScientific, dif_neg hpos, if_neg hnothuge, if_neg hnottiny,
      if_pos (Int.le_refl 0)]
    have hlow : -1022 ≤ ((52 + (k + 1) : Nat) : Int) + (-53 + 0) := by omega
    exact (mul_eq_twoPower _ _ (k + 1) hbits hlow).trans (congrArg twoPower hexponent)
  rw [Float.ofScientific, dif_neg hlarge]
  exact congrArg (fun parts => Float.ofModel (.pack parts)) hparts

theorem floatOfDecimal_two_pow {k : Nat} (hk : 53 ≤ k) :
    floatOfDecimal false (2 ^ k) 0 = infinity ∨
      floatOfDecimal false (2 ^ k) 0 = floatTwoPower k := by
  have hsome : ¬ (2 ^ k = 0 ∨ ((Nat.toDigits 10 (2 ^ k)).length + 0 : Int) < -400) := by
    have hpos := Nat.two_pow_pos k
    omega
  have hone : 2 ^ k * Nat.pow 10 0 = 2 ^ k := Nat.mul_one _
  simp only [floatOfDecimal, if_neg hsome, Bool.false_eq_true, if_false]
  split
  · exact .inl rfl
  · refine .inr ?_
    show Float.ofScientific (2 ^ k * Nat.pow 10 0) false 0 = _
    rw [hone, ofScientific_two_pow hk]

/-- **A power of two is read as itself**, unless it is out of range. -/
theorem floatOfInt?_two_pow {k : Nat} (hk : 53 ≤ k) :
    floatOfInt? (Nat.pow 2 k) = none ∨
      k ≤ 1023 ∧ floatOfInt? (Nat.pow 2 k) = some (floatTwoPower k) := by
  have hread : floatOfInt? (Nat.pow 2 k) =
      if (floatOfDecimal false (2 ^ k) 0).isInf then none
      else some (floatOfDecimal false (2 ^ k) 0) := rfl
  have hinfinite : infinity.isInf = true := by decide +kernel
  rw [hread]
  rcases floatOfDecimal_two_pow hk with h | h
  · rw [h, if_pos hinfinite]
    exact .inl rfl
  · rw [h]
    by_cases hhigh : k ≤ 1023
    · have hfinite : (floatTwoPower k).isInf = false := by
        show (Float.Model.pack (twoPower k)).unpack.isInf = false
        rw [unpack_twoPower (by omega) (by omega)]
        rfl
      refine .inr ⟨hhigh, ?_⟩
      rw [hfinite]
      rfl
    · rw [floatTwoPower_eq_infinity (by omega), if_pos hinfinite]
      exact .inl rfl

/-! ## 5. Products and order -/

/-- **The product of powers of two** that are in range is one, unless it is too small. -/
theorem floatTwoPower_mul {d : Int} (hd : -1022 ≤ d ∧ d ≤ 1023) (he : -1022 ≤ e ∧ e ≤ 1023)
    (hlow : -1022 ≤ d + e) : floatTwoPower d * floatTwoPower e = floatTwoPower (d + e) := by
  have hproduct : 2 ^ 52 * 2 ^ 52 = 2 ^ (52 + 52) := by decide
  have hexponent : ((52 + 52 : Nat) : Int) + (d - 52 + (e - 52)) = d + e := by omega
  have hparts : UnpackedFloat.mul Format.binary64 (twoPower d) (twoPower e) = twoPower (d + e) :=
    (mul_eq_twoPower _ _ 52 hproduct (by omega)).trans (congrArg twoPower hexponent)
  show Float.ofModel (.pack (UnpackedFloat.mul Format.binary64
    (Float.Model.pack (twoPower d)).unpack (Float.Model.pack (twoPower e)).unpack)) = _
  rw [unpack_twoPower hd.1 hd.2, unpack_twoPower he.1 he.2, hparts]
  rfl

theorem unpack_ten :
    (10.0 : Float).toModel.unpack = .finite .positive (5 * 2 ^ 50) (-49) (by decide) := by
  rfl

theorem valueOf?_ten : valueOf? 10.0 = some 10 := by
  rw [valueOf?, unpack_ten]
  show some (((5 * 2 ^ 50 : ℕ) : ℤ) * (2 : ℚ) ^ (-49 : ℤ)) = _
  norm_num

/-- From sixteen on, a power of two is more than ten. -/
theorem not_floatTwoPower_le_ten (hlow : 4 ≤ e) (hhigh : e ≤ 1023) :
    ¬ floatTwoPower e ≤ 10.0 := by
  have hexponent : compare (e - 52) (-49) = .gt := Int.compare_eq_gt.mpr (by omega)
  have hcompare : UnpackedFloat.compare (twoPower e) (10.0 : Float).toModel.unpack = some .gt := by
    rw [unpack_ten]
    show some ((compare (e - 52) (-49)).then _) = _
    rw [hexponent]
    rfl
  have hle : UnpackedFloat.le (twoPower e) (10.0 : Float).toModel.unpack = false := by
    rw [UnpackedFloat.le, hcompare]
    rfl
  show ¬ decide (UnpackedFloat.le (Float.Model.pack (twoPower e)).unpack _ = true) = true
  rw [unpack_twoPower (by omega) hhigh, hle]
  decide

end LintMend
