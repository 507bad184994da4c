/-
LintMend.Proofs.Text.Numeral — decimal notation, written and read.

  `digitsValue_ofNat`     — the digits of a number denote it
  `digitsValue_ofNatBase` — also with zeros in front
  `ofNat_cons`            — and the first of them is not zero, unless the number is
  `ofNat_digitsValue`     — digits without a zero in front are the notation of their number
-/
import LintMend.Text.Digit

namespace LintMend.Text

/-! ## 1. Digits -/

theorem digitValue?_ofChar {c : Char} (h : c.isDigit = true) :
    (CodePoint.ofChar c).digitValue? = some (c.toNat - '0'.toNat) := by
  have hrange : 0x30 ≤ c.toNat ∧ c.toNat ≤ 0x39 := by
    simp only [Char.isDigit, Bool.and_eq_true, decide_eq_true_eq, UInt32.le_iff_toNat_le] at h
    exact h
  have hval : (CodePoint.ofChar c).val = c.toNat := rfl
  rw [CodePoint.digitValue?, hval, if_pos (by omega), if_pos hrange]
  rfl

theorem isDigit_of_mem_ofNat {n : Nat} {c : CodePoint} (h : c ∈ ofNat n) : c.isDigit = true := by
  obtain ⟨d, hd, rfl⟩ := List.mem_map.mp h
  rw [CodePoint.isDigit, digitValue?_ofChar (Nat.isDigit_of_mem_toDigits (by omega) (by omega) hd)]
  rfl

/-- **The digits of a number denote it.** -/
theorem digitsValue_ofNat (n : Nat) : (ofNat n).digitsValue = n := by
  have hfold : ∀ (digits : List Char) (start : Nat), (∀ c ∈ digits, c.isDigit = true) →
      (digits.map CodePoint.ofChar).foldl (fun n c => 10 * n + c.digitValue?.getD 0) start =
        Nat.ofDigitChars 10 digits start := by
    intro digits
    induction digits with
    | nil => exact fun start _ => rfl
    | cons c digits ih =>
      intro start hdigits
      obtain ⟨hc, hrest⟩ := List.forall_mem_cons.mp hdigits
      rw [List.map_cons, List.foldl_cons, digitValue?_ofChar hc, Option.getD_some, ih _ hrest]
      rfl
  rw [digitsValue, ofNat, hfold _ 0 fun c => Nat.isDigit_of_mem_toDigits (by omega) (by omega)]
  exact Nat.ofDigitChars_toDigits (by omega) (by omega)

/-- Zeros in front do not change the number. -/
theorem digitsValue_ofNatBase (width n : Nat) : (ofNatBase 10 width n).digitsValue = n := by
  have hzeros : ∀ (k : Nat) (digits : Text),
      digitsValue (List.replicate k ('0' : CodePoint) ++ digits) = digits.digitsValue := by
    intro k digits
    induction k with
    | zero => rfl
    | succ k ih => exact ih
  exact (hzeros _ _).trans (digitsValue_ofNat n)

/-! ## 2. The first digit -/

theorem head_toDigits (n : Nat) (h : 1 ≤ n) : ∃ k, 1 ≤ k ∧ k < 10 ∧
    (Nat.toDigits 10 n).head? = some (Nat.digitChar k) := by
  induction n using Nat.strongRecOn with
  | _ n ih =>
    by_cases hsmall : n < 10
    · exact ⟨n, h, hsmall, by rw [Nat.toDigits_of_lt_base hsmall]; rfl⟩
    · obtain ⟨k, hk, hk', hhead⟩ := ih (n / 10) (by omega) (by omega)
      refine ⟨k, hk, hk', ?_⟩
      rw [Nat.toDigits_of_base_le (by omega) (by omega), List.head?_append, hhead]
      rfl

/-- The notation of a positive number starts with one of the digits 1 to 9. -/
theorem ofNat_cons {n : Nat} (h : 1 ≤ n) :
    ∃ first rest, ofNat n = first :: rest ∧ first.isLeadingDigit = true := by
  obtain ⟨k, hk, hk', hhead⟩ := head_toDigits n h
  obtain ⟨rest, hrest⟩ := List.head?_eq_some_iff.mp hhead
  refine ⟨Nat.digitChar k, rest.map CodePoint.ofChar, by rw [ofNat, hrest, List.map_cons], ?_⟩
  have hleading : ∀ k < 10, 1 ≤ k → (CodePoint.ofChar (Nat.digitChar k)).isLeadingDigit = true := by
    decide
  exact hleading k hk' hk

/-! ## 3. From digits to the number and back -/

theorem ofNat_of_lt {n : Nat} (h : n < 10) : ofNat n = [⟨0x30 + n⟩] := by
  have hsmall : ∀ n < 10, ofNat n = [⟨0x30 + n⟩] := by decide
  exact hsmall n h

/-- One more digit at the end. -/
theorem ofNat_push {n k : Nat} (hn : 1 ≤ n) (hk : k < 10) :
    ofNat (10 * n + k) = ofNat n ++ [⟨0x30 + k⟩] := by
  have hquot : (10 * n + k) / 10 = n := by omega
  have hrem : (10 * n + k) % 10 = k := by omega
  have hdigit : ofNat k = [CodePoint.ofChar (Nat.digitChar k)] := by
    rw [ofNat, Nat.toDigits_of_lt_base hk, List.map_singleton]
  rw [ofNat, Nat.toDigits_of_base_le (by omega) (by omega), hquot, hrem, List.map_append,
    List.map_singleton, ← hdigit, ofNat_of_lt hk]
  rfl

theorem ofNat_fold {digits : Text} (hdigits : ∀ c ∈ digits, 0x30 ≤ c.val ∧ c.val ≤ 0x39) {n : Nat}
    (hn : 1 ≤ n) :
    ofNat (digits.foldl (fun n c => 10 * n + c.digitValue?.getD 0) n) = ofNat n ++ digits := by
  induction digits generalizing n with
  | nil => simp
  | cons c digits ih =>
    obtain ⟨hc, hrest⟩ := List.forall_mem_cons.mp hdigits
    have hvalue : c.digitValue? = some (c.val - 0x30) := by
      rw [CodePoint.digitValue?, if_pos (by omega), if_pos hc]
    have hback : (⟨0x30 + (c.val - 0x30)⟩ : CodePoint) = c := by
      rw [show 0x30 + (c.val - 0x30) = c.val by omega]
    rw [List.foldl_cons, hvalue, Option.getD_some, ih hrest (by omega), ofNat_push hn (by omega),
      hback, List.append_assoc, List.singleton_append]

/-- **Digits without a zero in front** are the notation of their number. -/
theorem ofNat_digitsValue {t : Text} (hne : t ≠ []) (hdigits : ∀ c ∈ t, 0x30 ≤ c.val ∧ c.val ≤ 0x39)
    (hlead : t.head? = some ('0' : CodePoint) → t = "0") : ofNat t.digitsValue = t := by
  cases t with
  | nil => exact absurd rfl hne
  | cons c rest =>
    obtain ⟨hc, hrest⟩ := List.forall_mem_cons.mp hdigits
    have hvalue : c.digitValue? = some (c.val - 0x30) := by
      rw [CodePoint.digitValue?, if_pos (by omega), if_pos hc]
    by_cases hzero : c = '0'
    · rw [hlead (by rw [hzero, List.head?_cons])]
      decide
    · have hpos : 1 ≤ c.val - 0x30 := by
        refine Nat.pos_of_ne_zero fun h => hzero ?_
        have hval : c.val = 0x30 := by omega
        cases c
        exact congrArg CodePoint.mk hval
      have hback : (⟨0x30 + (c.val - 0x30)⟩ : CodePoint) = c := by
        rw [show 0x30 + (c.val - 0x30) = c.val by omega]
      rw [digitsValue, List.foldl_cons, hvalue, Option.getD_some, Nat.mul_zero, Nat.zero_add,
        ofNat_fold hrest hpos, ofNat_of_lt (by omega), hback, List.singleton_append]

end LintMend.Text
