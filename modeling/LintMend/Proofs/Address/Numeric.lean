/-
LintMend.Proofs.Address.Numeric — the numeric addresses of the own machine.

An address of version 4 is told by its four numbers, each in decimal notation, so those that start
with 127 can be written down. Of version 6 there is one loopback address, written in many ways; all
of them hold nothing but zeros, ones, colons and points before the zone, since no part of the
address is larger than the whole number.

  `number4?_eq_some_iff` — reading an address of version 4
  `IsLoopback4`          — addresses that start with 127, as they are written
  `caseless_of_number6?` — the letters of the loopback address of version 6
  `isLoopback_iff`       — the addresses of the own machine
-/
import LintMend.Address.Internet
import LintMend.Proofs.Text.Cutting
import LintMend.Proofs.Text.Lowering
import LintMend.Proofs.Text.Numeral
import Mathlib.Data.List.Basic

namespace LintMend

namespace InternetAddress

open CodePoint

/-! ## 1. Version 4 -/

theorem plainDigit_iff {c : CodePoint} : Json.isPlainDigit c = true ↔ 0x30 ≤ c.val ∧ c.val ≤ 0x39 := by
  simp [Json.isPlainDigit]

theorem octet?_ofNat : ∀ k ≤ 255, octet? (Text.ofNat k) = some k := by
  decide +kernel

/-- **One of the four numbers** is a number up to 255 in decimal notation. -/
theorem octet?_eq_some_iff {t : Text} {k : Nat} : octet? t = some k ↔ k ≤ 255 ∧ t = Text.ofNat k := by
  constructor
  · intro h
    rw [octet?] at h
    split at h
    · exact nomatch h
    · next hshape =>
      split at h
      · exact nomatch h
      · next hlead =>
        split at h
        · exact nomatch h
        · next hsmall =>
          obtain rfl := Option.some.inj h
          simp only [Bool.or_eq_true, List.isEmpty_iff, decide_eq_true_eq, Bool.not_eq_true',
            not_or, Bool.not_eq_false] at hshape
          obtain ⟨⟨hne, -⟩, hdigits⟩ := hshape
          refine ⟨Nat.le_of_not_lt hsmall, (Text.ofNat_digitsValue hne ?_ ?_).symm⟩
          · exact fun c hc => plainDigit_iff.mp (List.all_eq_true.mp hdigits c hc)
          · simpa using hlead
  · rintro ⟨hk, rfl⟩
    exact octet?_ofNat k hk

/-- The notation of a number is all digits. -/
theorem digit_of_mem_ofNat {n : Nat} {c : CodePoint} (h : c ∈ Text.ofNat n) :
    0x30 ≤ c.val ∧ c.val ≤ 0x39 := by
  obtain ⟨d, hd, rfl⟩ := List.mem_map.mp h
  have hdigit := Nat.isDigit_of_mem_toDigits (by omega) (by omega) hd
  simp only [Char.isDigit, Bool.and_eq_true, decide_eq_true_eq, UInt32.le_iff_toNat_le] at hdigit
  exact hdigit

/-- The text of an address of version 4. -/
def written4 (a b c d : Nat) : Text :=
  Text.ofNat a ++ "." ++ Text.ofNat b ++ "." ++ Text.ofNat c ++ "." ++ Text.ofNat d

theorem written4_eq_join (a b c d : Nat) : written4 a b c d = Text.join ([('.' : CodePoint)])
    [Text.ofNat a, Text.ofNat b, Text.ofNat c, Text.ofNat d] := by
  simp only [written4, Text.join, List.append_assoc]
  rfl

theorem point_not_mem_ofNat (n : Nat) : ('.' : CodePoint) ∉ Text.ofNat n :=
  fun h => absurd (digit_of_mem_ofNat h) (by decide)

/-- **Reading an address of version 4**: four numbers up to 255 with points between them. -/
theorem number4?_eq_some_iff {t : Text} {n : Nat} :
    number4? t = some n ↔ ∃ a b c d, (a ≤ 255 ∧ b ≤ 255 ∧ c ≤ 255 ∧ d ≤ 255) ∧
      t = written4 a b c d ∧ n = 16777216 * a + 65536 * b + 256 * c + d := by
  constructor
  · intro h
    rw [number4?] at h
    split at h
    · next hlength =>
      obtain ⟨p₁, p₂, p₃, p₄, hparts⟩ := List.length_eq_four.mp hlength
      obtain ⟨values, hvalues, rfl⟩ := Option.map_eq_some_iff.mp h
      simp only [hparts, List.mapM_cons, List.mapM_nil, Option.bind_eq_bind, Option.bind_eq_some_iff,
        Option.pure_def, Option.some.injEq, octet?_eq_some_iff] at hvalues
      obtain ⟨a, ⟨ha, rfl⟩, -, ⟨b, ⟨hb, rfl⟩, -, ⟨c, ⟨hc, rfl⟩, -, ⟨d, ⟨hd, rfl⟩, -, rfl, rfl⟩,
        rfl⟩, rfl⟩, rfl⟩ := hvalues
      refine ⟨a, b, c, d, ⟨ha, hb, hc, hd⟩, ?_, ?_⟩
      · rw [← Text.join_splitAt '.' t, hparts, written4_eq_join]
      · simp only [number, List.foldl_cons, List.foldl_nil]
        omega
    · cases h
  · rintro ⟨a, b, c, d, ⟨ha, hb, hc, hd⟩, rfl, rfl⟩
    have hparts : Text.splitAt '.' (written4 a b c d) =
        [Text.ofNat a, Text.ofNat b, Text.ofNat c, Text.ofNat d] := by
      rw [written4_eq_join]
      exact Text.splitAt_join (List.cons_ne_nil _ _) (by simp [point_not_mem_ofNat])
    simp only [number4?, hparts, List.length_cons, List.length_nil, if_true, List.mapM_cons, List.mapM_nil,
      octet?_ofNat a ha, octet?_ofNat b hb, octet?_ofNat c hc, octet?_ofNat d hd,
      Option.bind_eq_bind, Option.bind_some, Option.pure_def, Option.map_some, number,
      List.foldl_cons, List.foldl_nil]
    congr 1
    omega

theorem caseless_of_mem_written4 {a b c d : Nat} {e : CodePoint} (h : e ∈ written4 a b c d) :
    e.IsCaseless ∧ e ≠ ':' := by
  have hnumber : ∀ n, e ∈ Text.ofNat n → e.IsCaseless ∧ e ≠ ':' := by
    intro n hn
    obtain ⟨hlow, hhigh⟩ := digit_of_mem_ofNat hn
    refine ⟨⟨by omega, by omega⟩, ?_⟩
    rintro rfl
    exact absurd hhigh (by decide)
  have hpoint : e ∈ Text.ofString "." → e.IsCaseless ∧ e ≠ ':' := by
    intro he
    have hval : e = ('.' : CodePoint) := List.mem_singleton.mp he
    rw [hval]
    exact ⟨by decide, by decide⟩
  simp only [written4, List.mem_append] at h
  obtain (((((h | h) | h) | h) | h) | h) | h := h
  all_goals first | exact hnumber _ h | exact hpoint h

/-- An address of the block of version 4 that leads back to the own machine. -/
def IsLoopback4 (t : Text) : Prop :=
  ∃ b c d, (b ≤ 255 ∧ c ≤ 255 ∧ d ≤ 255) ∧ t = written4 127 b c d

/-! ## 2. Numbers and their parts -/

/-- No part of a number is larger than the number. -/
theorem le_number {base : Nat} (hbase : 1 ≤ base) {parts : List Nat} {part : Nat}
    (h : part ∈ parts) : part ≤ number base parts := by
  have hgrow : ∀ (parts : List Nat) (n : Nat),
      n ≤ parts.foldl (fun n part => base * n + part) n ∧
        ∀ part ∈ parts, part ≤ parts.foldl (fun n part => base * n + part) n := by
    intro parts
    induction parts with
    | nil => exact fun n => ⟨Nat.le_refl n, fun part hpart => nomatch hpart⟩
    | cons first parts ih =>
      intro n
      obtain ⟨hstart, hrest⟩ := ih (base * n + first)
      have hn : n ≤ base * n := Nat.le_mul_of_pos_left n hbase
      refine ⟨Nat.le_trans (Nat.le_add_right_of_le hn) hstart, List.forall_mem_cons.mpr ⟨?_, hrest⟩⟩
      exact Nat.le_trans (Nat.le_add_left first _) hstart
  exact (hgrow parts 0).2 part h

/-- What is read of a list is read of each of its members. -/
theorem exists_of_mem_mapM {α β : Type} {f : α → Option β} {xs : List α} {ys : List β}
    (h : xs.mapM f = some ys) {x : α} (hx : x ∈ xs) : ∃ y ∈ ys, f x = some y := by
  induction xs generalizing ys with
  | nil => exact nomatch hx
  | cons first xs ih =>
    simp only [List.mapM_cons, Option.bind_eq_bind, Option.bind_eq_some_iff, Option.pure_def,
      Option.some.injEq] at h
    obtain ⟨y, hy, rest, hrest, rfl⟩ := h
    obtain rfl | hx := List.mem_cons.mp hx
    · exact ⟨y, List.mem_cons_self, hy⟩
    · obtain ⟨z, hz, hfz⟩ := ih hrest hx
      exact ⟨z, List.mem_cons_of_mem _ hz, hfz⟩

/-- A group that is zero or one is written with zeros and ones. -/
theorem caseless_of_group? {t : Text} {v : Nat} (h : group? t = some v) (hv : v ≤ 1) {c : CodePoint}
    (hc : c ∈ t) : c.IsCaseless := by
  rw [group?] at h
  split at h
  · exact nomatch h
  · obtain ⟨digits, hdigits, rfl⟩ := Option.map_eq_some_iff.mp h
    obtain ⟨digit, hmem, hdigit⟩ := exists_of_mem_mapM hdigits hc
    have hsmall : digit ≤ 1 := Nat.le_trans (le_number (by omega) hmem) hv
    rw [Json.hexValue?] at hdigit
    split at hdigit
    · exact ⟨by omega, by omega⟩
    · split at hdigit
      · have := Option.some.inj hdigit
        omega
      · split at hdigit
        · have := Option.some.inj hdigit
          omega
        · exact nomatch hdigit

/-! ## 3. Version 6 -/

/-- A member of a list stands before a place, at it or after it. -/
theorem mem_around {α : Type} {xs : List α} {x : α} (h : x ∈ xs) (k : Nat) :
    x ∈ xs.take k ∨ xs[k]? = some x ∨ x ∈ xs.drop (k + 1) := by
  have hxs : xs = xs.take k ++ (xs[k]?.toList ++ xs.drop (k + 1)) := by
    rw [← List.drop_eq_getElem?_toList_append, List.take_append_drop]
  rw [hxs] at h
  simpa using h

/-- Every part on one side of the gap is empty or one of the groups of that side. -/
theorem group?_of_side {side : List Text} {groups : List Nat} {mayBeEmpty : Prop}
    [Decidable mayBeEmpty]
    (h : (if mayBeEmpty ∧ side = [[]] then some [] else side.mapM group?) = some groups)
    {part : Text} (hpart : part ∈ side) : part = [] ∨ ∃ v ∈ groups, group? part = some v := by
  split at h
  · next hempty =>
    rw [hempty.2] at hpart
    exact .inl (List.mem_singleton.mp hpart)
  · exact .inr (exists_of_mem_mapM h hpart)

/-- Every part between colons is empty or one of the groups. -/
theorem group?_of_groups? {parts : List Text} {known groups : List Nat}
    (h : groups? parts known = some groups) {part : Text} (hpart : part ∈ parts) :
    part = [] ∨ ∃ v ∈ groups, group? part = some v := by
  simp only [groups?] at h
  split at h
  · -- without a gap all parts are groups
    split at h
    · obtain ⟨values, hvalues, rfl⟩ := Option.map_eq_some_iff.mp h
      obtain ⟨v, hv, hgroup⟩ := exists_of_mem_mapM hvalues hpart
      exact .inr ⟨v, List.mem_append_left _ hv, hgroup⟩
    · exact nomatch h
  · next i hfind =>
    -- the gap is the part at `i + 1`; what is before and after it is read by itself
    split at h
    · exact nomatch h
    · split at h
      · next high low hhigh hlow =>
        rw [fill?] at h
        split at h
        · obtain rfl := Option.some.inj h
          rcases mem_around hpart (i + 1) with hbefore | hgap | hafter
          · have hhigh : (if True ∧ parts.take (i + 1) = [[]] then some []
                else (parts.take (i + 1)).mapM group?) = some high := by simpa using hhigh
            refine (group?_of_side hhigh hbefore).imp_right ?_
            rintro ⟨v, hv, hgroup⟩
            exact ⟨v, List.mem_append_left _ (List.mem_append_left _ hv), hgroup⟩
          · obtain ⟨hi, hempty, -⟩ := List.findIdx?_eq_some_iff_getElem.mp hfind
            have hat := List.getElem?_eq_getElem hi
            rw [List.getElem?_take_of_lt (by simp at hi; omega), List.getElem?_drop,
              Nat.add_comm, hgap] at hat
            rw [Option.some.inj hat]
            exact .inl (List.isEmpty_iff.mp hempty)
          · have hlow : (if known = [] ∧ parts.drop (i + 2) = [[]] then some []
                else (parts.drop (i + 2)).mapM group?) = some low := by simpa using hlow
            refine (group?_of_side hlow hafter).imp_right ?_
            rintro ⟨v, hv, hgroup⟩
            exact ⟨v, List.mem_append_right _ (List.mem_append_left _ hv), hgroup⟩
        · exact nomatch h
      · exact nomatch h

/-- What the parts between colons are, and that there are colons. -/
theorem of_splitGroups {t : Text} {parts : List Text} {known : List Nat}
    (h : splitGroups t = some (parts, known)) :
    (':' : CodePoint) ∈ t ∧ ∀ c ∈ t, (∀ part ∈ parts, c ∉ part) → c.IsCaseless := by
  simp only [splitGroups] at h
  split at h
  · exact nomatch h
  · next hlength =>
    refine ⟨Text.mem_of_two_le_length (by omega), fun c hc hparts => ?_⟩
    rw [← Text.join_splitAt ':' t] at hc
    obtain rfl | ⟨piece, hpiece, hmem⟩ := Text.mem_join hc
    · decide
    · split at h
      · obtain ⟨n, hnumber, hpair⟩ := Option.map_eq_some_iff.mp h
        obtain ⟨rfl, -⟩ := Prod.mk.inj hpair
        obtain ⟨a, b, c', d, -, hlast, -⟩ := number4?_eq_some_iff.mp hnumber
        have hpieces : Text.splitAt ':' t =
            (Text.splitAt ':' t).dropLast ++ [(Text.splitAt ':' t).getLastD []] := by
          rw [List.getLastD_eq_getLast?, List.getLast?_eq_some_getLast (Text.splitAt_ne_nil ':' t),
            Option.getD_some, List.dropLast_concat_getLast]
        rw [hpieces] at hpiece
        obtain hfront | hback := List.mem_append.mp hpiece
        · exact absurd hmem (hparts piece hfront)
        · rw [List.mem_singleton.mp hback, hlast] at hmem
          exact (caseless_of_mem_written4 hmem).1
      · obtain ⟨rfl, -⟩ := Prod.mk.inj (Option.some.inj h)
        exact absurd hmem (hparts piece hpiece)

theorem colon_of_plainNumber6? {t : Text} {n : Nat} (h : plainNumber6? t = some n) : (':' : CodePoint) ∈ t := by
  rw [plainNumber6?] at h
  split at h
  · next hsplit => exact (of_splitGroups hsplit).1
  · exact nomatch h

/-- The loopback address without its zone holds no letters. -/
theorem caseless_of_plainNumber6? {t : Text} (h : plainNumber6? t = some 1) :
    ∀ c ∈ t, c.IsCaseless := by
  rw [plainNumber6?] at h
  split at h
  · next parts known hsplit =>
    obtain ⟨groups, hgroups, hone⟩ := Option.map_eq_some_iff.mp h
    have hparts : ∀ part ∈ parts, ∀ c ∈ part, c.IsCaseless := by
      intro part hpart c hc
      obtain rfl | ⟨v, hv, hgroup⟩ := group?_of_groups? hgroups hpart
      · exact nomatch hc
      · exact caseless_of_group? hgroup (hone ▸ le_number (by omega) hv) hc
    intro c hc
    by_cases hin : ∃ part ∈ parts, c ∈ part
    · obtain ⟨part, hpart, hmem⟩ := hin
      exact hparts part hpart c hmem
    · exact (of_splitGroups hsplit).2 c hc fun part hpart hmem => hin ⟨part, hpart, hmem⟩
  · exact nomatch h

/-- An address of version 6 is one without a zone, or such a one before a percent sign. -/
theorem of_number6? {t : Text} {n : Nat} (h : number6? t = some n) :
    ∃ address zone, plainNumber6? address = some n ∧ ('%' : CodePoint) ∉ address ∧ ('%' : CodePoint) ∉ zone ∧
      (t = address ∨ t = address ++ ('%' : CodePoint) :: zone) := by
  rw [number6?] at h
  split at h
  · exact nomatch h
  · split at h
    · next hcut => exact ⟨t, [], h, Text.cut?_eq_none_iff.mp hcut, List.not_mem_nil, Or.inl rfl⟩
    · next address zone hcut =>
      split at h
      · exact nomatch h
      · next hzone =>
        obtain ⟨hsplit, haddress⟩ := Text.cut?_eq_some_iff.mp hcut
        refine ⟨address, zone, h, haddress, fun hmem => hzone ?_, Or.inr hsplit⟩
        rw [Text.has, List.elem_eq_true_of_mem hmem, Bool.or_true]

theorem colon_of_number6? {t : Text} {n : Nat} (h : number6? t = some n) : (':' : CodePoint) ∈ t := by
  obtain ⟨address, zone, hplain, -, -, rfl | rfl⟩ := of_number6? h
  · exact colon_of_plainNumber6? hplain
  · exact List.mem_append_left _ (colon_of_plainNumber6? hplain)

/-- The loopback address starts with none of the letters. -/
theorem caseless_of_number6? {t : Text} (h : number6? t = some 1) :
    ∃ first rest, t = first :: rest ∧ first.IsCaseless := by
  obtain ⟨address, zone, hplain, -, -, ht⟩ := of_number6? h
  cases address with
  | nil => exact nomatch colon_of_plainNumber6? hplain
  | cons first rest =>
    have hfirst := caseless_of_plainNumber6? hplain first List.mem_cons_self
    obtain rfl | rfl := ht
    · exact ⟨first, rest, rfl, hfirst⟩
    · exact ⟨first, rest ++ ('%' : CodePoint) :: zone, rfl, hfirst⟩

/-! ## 4. The own machine -/

theorem number4?_of_colon {t : Text} (h : (':' : CodePoint) ∈ t) : number4? t = none := by
  cases hnumber : number4? t with
  | none => rfl
  | some n =>
    obtain ⟨a, b, c, d, -, rfl, -⟩ := number4?_eq_some_iff.mp hnumber
    exact absurd rfl (caseless_of_mem_written4 h).2

theorem isLoopback4_iff {t : Text} :
    IsLoopback4 t ↔ ∃ n, number4? t = some n ∧ n / 16777216 = 127 := by
  constructor
  · rintro ⟨b, c, d, ⟨hb, hc, hd⟩, rfl⟩
    exact ⟨_, number4?_eq_some_iff.mpr ⟨127, b, c, d, ⟨by omega, hb, hc, hd⟩, rfl, rfl⟩, by omega⟩
  · rintro ⟨n, hnumber, hblock⟩
    obtain ⟨a, b, c, d, ⟨-, hb, hc, hd⟩, rfl, rfl⟩ := number4?_eq_some_iff.mp hnumber
    obtain rfl : a = 127 := by omega
    exact ⟨b, c, d, ⟨hb, hc, hd⟩, rfl⟩

/-- **The addresses of the own machine** are those of version 4 that start with 127, and the
loopback address of version 6. -/
theorem isLoopback_iff {t : Text} :
    ((ofText? t).map isLoopback).getD false = true ↔ IsLoopback4 t ∨ number6? t = some 1 := by
  rw [ofText?]
  cases hnumber : number4? t with
  | some n =>
    have hno6 : number6? t ≠ some 1 := by
      intro h
      rw [number4?_of_colon (colon_of_number6? h)] at hnumber
      exact nomatch hnumber
    simp [isLoopback4_iff, hnumber, hno6, isLoopback]
  | none =>
    cases hsix : number6? t with
    | none => simp [isLoopback4_iff, hnumber]
    | some n => simp [isLoopback4_iff, hnumber, isLoopback]

end InternetAddress

end LintMend
