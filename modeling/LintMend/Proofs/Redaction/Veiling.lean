/-
LintMend.Proofs.Redaction.Veiling — what replacing one kind of secret can bring about in a text.

Replacing the matches of one rule gives a text of kept code points and placeholders. When a word of
another rule is next in it, that word starts at a kept code point, since no word starts inside of a
placeholder; and before the replacement there was a word at the same place. For rules without
brackets that is the same word. The other rules take placeholders into their words, and there what
was replaced has to serve in place of the placeholder.

  `veil`, `veiled`           — pieces with placeholders for matches, and a text with one rule applied
  `Cut.Located`              — where a place in a veiled text lies
  `StartsKept`               — a word of a rule starts at a code point that another rule keeps
  `Cut.startsKept`           — a word that is found after a replacement was there before
  `startsKept_of_bracketless`, `startsKept_password`, `startsKept_credentials` — the kinds of rules
  `Passes`                   — matches that serve in place of a placeholder among credentials
  `UpTo`, `Cut.upTo_of_veil` — text up to a mark, before and after
-/
import LintMend.Proofs.Redaction.Rules

namespace LintMend

open Pattern SecretRule

/-- Pieces with the placeholder for every match. -/
def veil (pieces : List Piece) : Text :=
  pieces.flatMap fun piece =>
    match piece with
    | .kept c => [c]
    | .found _ _ => Redactor.standardPlaceholder

/-- A text with the matches of one rule replaced. -/
def SecretRule.veiled (rule : SecretRule) (t : Text) : Text :=
  veil (rule.pattern.pieces t)

theorem veil_kept (c : CodePoint) (ps : List Piece) : veil (.kept c :: ps) = c :: veil ps :=
  rfl

theorem veil_found (w : Text) (groups : List (Nat × Text)) (ps : List Piece) :
    veil (.found w groups :: ps) = Redactor.standardPlaceholder ++ veil ps :=
  rfl

theorem placeholder_cons : Redactor.standardPlaceholder =
    ('[' : CodePoint) :: Redactor.standardPlaceholder.drop 1 := by
  decide

/-- A text that goes on with something is longer than a placeholder in front of it, if that does not
hold the same. -/
theorem append_of_placeholder {c : CodePoint} (hc : c ∉ Redactor.standardPlaceholder)
    {front rest tail : Text} (h : front ++ c :: rest = Redactor.standardPlaceholder ++ tail) :
    ∃ front', front = Redactor.standardPlaceholder ++ front' ∧ front' ++ c :: rest = tail := by
  obtain ⟨inside, hplaceholder, htail⟩ | ⟨front', hfront, htail⟩ := List.append_eq_append_iff.mp h
  · cases inside with
    | nil => exact ⟨[], by simpa using hplaceholder.symm, htail.symm ▸ rfl⟩
    | cons d inside =>
      obtain ⟨rfl, -⟩ := List.cons.inj htail
      exact absurd (by rw [hplaceholder]; simp) hc
  · exact ⟨front', hfront, htail.symm⟩

/-- Text that starts visibly. -/
def Visible (t : Text) : Prop :=
  ∃ c rest, t = c :: rest ∧ c.isSpace = false

variable {p q : Pattern} {t : Text} {ps : List Piece}

theorem SecretRule.IsSecret.visible_of_words (hp : IsSecret p) {w : Text} (hw : p.Words w) :
    Visible w := by
  cases w with
  | nil => exact absurd hw hp.notEmpty
  | cons c w => exact ⟨c, w, rfl, hp.visible c w hw⟩

namespace Pattern.Cut

/-! ## 1. Places in a veiled text -/

/-- Where a place in a veiled text lies: at a kept code point, or inside of a placeholder. -/
inductive Located (p : Pattern) (t : Text) (ps : List Piece) : Text → Prop
  | kept {c : CodePoint} {t' : Text} {ps' : List Piece} (hcut : p.Cut (c :: t') (.kept c :: ps'))
      (hsuffix : c :: t' <:+ t) (hpieces : .kept c :: ps' <:+ ps) :
      Located p t ps (veil (.kept c :: ps'))
  | inside {n : Nat} (rest : Text) (hn : n < Redactor.standardPlaceholder.length) :
      Located p t ps (Redactor.standardPlaceholder.drop n ++ rest)

theorem Located.mono {t₀ : Text} {ps₀ : List Piece} {tail : Text} (h : Located p t ps tail)
    (hsuffix : t <:+ t₀) (hpieces : ps <:+ ps₀) : Located p t₀ ps₀ tail := by
  cases h with
  | kept hcut hsuffix' hpieces' =>
    exact .kept hcut (hsuffix'.trans hsuffix) (hpieces'.trans hpieces)
  | inside rest hn => exact .inside rest hn

/-- Every place in a veiled text, but its end, lies so. -/
theorem locate (h : p.Cut t ps) {front tail : Text} (hveil : veil ps = front ++ tail)
    (htail : tail ≠ []) : Located p t ps tail := by
  induction h generalizing front with
  | done =>
    obtain ⟨-, rfl⟩ := List.append_eq_nil_iff.mp hveil.symm
    exact absurd rfl htail
  | @kept c rest ps hnone hrest ih =>
    cases front with
    | nil =>
      obtain rfl : veil (.kept c :: ps) = tail := hveil
      exact .kept (.kept hnone hrest) (List.suffix_refl _) (List.suffix_refl _)
    | cons d front =>
      rw [veil_kept] at hveil
      exact (ih (List.cons.inj hveil).2).mono (List.suffix_cons _ _) (List.suffix_cons _ _)
  | @found w rest groups ps htakes hrest ih =>
    have hlater : ∀ front', veil ps = front' ++ tail →
        Located p (w ++ rest) (.found w groups :: ps) tail :=
      fun _ hveil' => (ih hveil').mono (List.suffix_append _ _) (List.suffix_cons _ _)
    rw [veil_found] at hveil
    -- the place lies after the placeholder, or in it
    obtain ⟨front', rfl, hveil'⟩ | ⟨inside, hplaceholder, htail'⟩ :=
      List.append_eq_append_iff.mp hveil
    · exact hlater front' hveil'
    · cases inside with
      | nil => exact hlater [] (by simpa using htail'.symm)
      | cons d inside =>
        have hdrop : tail = Redactor.standardPlaceholder.drop front.length ++ veil ps := by
          rw [hplaceholder, List.drop_left, htail']
        rw [hdrop]
        refine .inside (veil ps) ?_
        rw [hplaceholder, List.length_append, List.length_cons]
        omega

/-- Text without brackets at the start of a veiled text was kept. -/
theorem of_bracketless (h : p.Cut t ps) {front tail : Text} (hveil : veil ps = front ++ tail)
    (hfront : ('[' : CodePoint) ∉ front) :
    ∃ t' ps', t = front ++ t' ∧ p.Cut t' ps' ∧ veil ps' = tail ∧ ps' <:+ ps := by
  induction front generalizing t ps with
  | nil => exact ⟨t, ps, rfl, h, hveil, List.suffix_refl _⟩
  | cons c front ih =>
    obtain ⟨hc, hclear⟩ := not_or.mp (mt List.mem_cons.mpr hfront)
    cases h with
    | done => exact nomatch hveil
    | @kept d rest ps hnone hrest =>
      obtain ⟨rfl, hafter⟩ := List.cons.inj hveil
      obtain ⟨t', ps', rfl, hcut, htail, hpieces⟩ := ih hrest hafter hclear
      exact ⟨t', ps', rfl, hcut, htail, hpieces.trans (List.suffix_cons _ _)⟩
    | found htakes hrest =>
      rw [veil_found, placeholder_cons] at hveil
      exact absurd (List.cons.inj hveil).1 hc

/-- No word is next where a code point is kept. -/
theorem not_next {c : CodePoint} (h : p.Cut t (.kept c :: ps)) : ¬ p.Next t := by
  cases h with
  | kept hnone hrest => exact hnone

/-- What is found stands in the text. -/
theorem exists_of_found (h : p.Cut t ps) {w : Text} {groups : List (Nat × Text)}
    (hw : .found w groups ∈ ps) : ∃ front rest, t = front ++ (w ++ rest) := by
  induction h with
  | done => exact nomatch hw
  | @kept c rest ps hnone hrest ih =>
    obtain heq | hw := List.mem_cons.mp hw
    · exact nomatch heq
    · obtain ⟨front, after, rfl⟩ := ih hw
      exact ⟨c :: front, after, rfl⟩
  | @found u rest groups ps htakes hrest ih =>
    obtain heq | hw := List.mem_cons.mp hw
    · cases heq
      exact ⟨[], rest, rfl⟩
    · obtain ⟨front, after, rfl⟩ := ih hw
      exact ⟨u ++ front, after, by rw [List.append_assoc]⟩

/-- Where a veiled text goes on visibly, so did the text. -/
theorem visible_of_veil (hp : IsSecret p) (h : p.Cut t ps) (hveil : Visible (veil ps)) :
    Visible t := by
  cases h with
  | done =>
    obtain ⟨c, rest, hnil, -⟩ := hveil
    exact nomatch hnil
  | @kept c rest ps hnone hrest =>
    obtain ⟨d, after, hsame, hd⟩ := hveil
    obtain ⟨rfl, -⟩ := List.cons.inj hsame
    exact ⟨c, rest, rfl, hd⟩
  | @found w rest groups ps htakes hrest =>
    obtain ⟨c, after, rfl, hc⟩ := hp.visible_of_words (htakes.words hp.isLocal)
    exact ⟨c, after ++ rest, rfl, hc⟩

end Pattern.Cut

/-! ## 2. Words that were there before -/

/-- A word of a pattern starts at a code point that another pattern keeps. -/
def StartsKept (q p : Pattern) (t : Text) : Prop :=
  ∃ after, after <:+ t ∧ ¬ p.Next after ∧ q.Next after

theorem StartsKept.occurs (h : StartsKept q p t) : q.Occurs t := by
  obtain ⟨after, hafter, -, hnext⟩ := h
  exact ⟨after, hafter, hnext⟩

theorem not_startsKept_self : ¬ StartsKept p p t := by
  rintro ⟨after, -, hnone, hnext⟩
  exact hnone hnext

/-- **A word that is found after a replacement** starts at a kept code point; it was there before if
what is next there can be carried back. -/
theorem Pattern.Cut.startsKept (hq : IsSecret q) (h : p.Cut t ps)
    (hback : ∀ {t' : Text} {ps' : List Piece}, p.Cut t' ps' → ps' <:+ ps → q.Next (veil ps') →
      q.Next t') (hoccurs : q.Occurs (veil ps)) : StartsKept q p t := by
  obtain ⟨tail, ⟨front, hfront⟩, hnext⟩ := hoccurs
  have htail : tail ≠ [] := by
    rintro rfl
    obtain ⟨w, hw, hnil⟩ := hnext
    exact hq.notEmpty (List.prefix_nil.mp hnil ▸ hw)
  cases h.locate hfront.symm htail with
  | kept hcut hsuffix hpieces => exact ⟨_, hsuffix, hcut.not_next, hback hcut hpieces hnext⟩
  | inside rest hn => exact absurd hnext (hq.foreign _ hn rest)

/-- Words without brackets are the same before and after. -/
theorem startsKept_of_bracketless (hq : IsSecret q) (hbracket : IsBracketless q) (h : p.Cut t ps)
    (hoccurs : q.Occurs (veil ps)) : StartsKept q p t := by
  refine h.startsKept hq (fun hcut _ hnext => ?_) hoccurs
  obtain ⟨w, hw, rest, hrest⟩ := hnext
  obtain ⟨t', ps', rfl, -⟩ := hcut.of_bracketless hrest.symm (hbracket w hw)
  exact ⟨w, hw, List.prefix_append w t'⟩

/-- A password on the command line may have been another. -/
theorem startsKept_password (hp : IsSecret p) (h : p.Cut t ps)
    (hoccurs : repositoryPassword.pattern.Occurs (veil ps)) :
    StartsKept repositoryPassword.pattern p t := by
  refine h.startsKept (isSecret_of_standard (by decide)) (fun hcut _ hnext => ?_) hoccurs
  obtain ⟨head, c, rest, hhead, hc, hveil⟩ := next_password_iff.mp hnext
  obtain ⟨t', ps', rfl, hcut', hveil', -⟩ :=
    hcut.of_bracketless hveil (passwordHead_bracketless hhead)
  obtain ⟨d, after, rfl, hd⟩ := hcut'.visible_of_veil hp ⟨c, rest, hveil', hc⟩
  exact next_password_iff.mpr ⟨head, d, after, hhead, hd, rfl⟩

/-! ## 3. Credentials -/

/-- What may stand in place of a placeholder among credentials: text that fits name and password
alike, or something with credentials of its own. -/
inductive Passes (user pass : CharClass) : Text → Prop where
  | clear {w : Text} (hall : ∀ c ∈ w, user.holds c = true ∧ pass.holds c = true) : Passes user pass w
  | credentials {u v rest : Text} {c : CodePoint}
      (hu : u ≠ [] ∧ ∀ d ∈ u, user.holds d = true ∧ pass.holds d = true)
      (hv : v ≠ [] ∧ ∀ d ∈ v, pass.holds d = true) (hc : c.isSpace = false) :
      Passes user pass (u ++ (':' : CodePoint) :: (v ++ ('@' : CodePoint) :: c :: rest))

/-- Text up to an at sign that something visible follows. -/
def EndsPassword (pass : CharClass) (mayBeEmpty : Prop) (t : Text) : Prop :=
  ∃ v c rest, t = v ++ ('@' : CodePoint) :: c :: rest ∧ (v = [] → mayBeEmpty) ∧
    (∀ d ∈ v, pass.holds d = true) ∧ c.isSpace = false

/-- Text of a class up to a mark, with something of a kind after it. -/
def UpTo (cls : CharClass) (mark : CodePoint) (kind : Text → Prop) (mayBeEmpty : Prop)
    (t : Text) : Prop :=
  ∃ v rest, t = v ++ mark :: rest ∧ (v = [] → mayBeEmpty) ∧ (∀ d ∈ v, cls.holds d = true) ∧
    kind rest

section UpTo

variable {cls : CharClass} {mark : CodePoint} {kind : Text → Prop} {e e' : Prop} {w : Text}

theorem UpTo.mono (h : UpTo cls mark kind e t) (he : e → e') : UpTo cls mark kind e' t := by
  obtain ⟨v, rest, ht, hempty, hv, hrest⟩ := h
  exact ⟨v, rest, ht, fun hnil => he (hempty hnil), hv, hrest⟩

/-- With more text of the class in front there is text before the mark. -/
theorem UpTo.append (hne : w ≠ []) (hw : ∀ d ∈ w, cls.holds d = true)
    (h : UpTo cls mark kind e t) : UpTo cls mark kind e' (w ++ t) := by
  obtain ⟨v, rest, rfl, -, hv, hrest⟩ := h
  refine ⟨w ++ v, rest, by rw [List.append_assoc], fun hnil => ?_,
    List.forall_mem_append.mpr ⟨hw, hv⟩, hrest⟩
  exact absurd (List.append_eq_nil_iff.mp hnil).1 hne

/-- **Text up to a mark was text up to that mark before**, if all that was replaced is of the class
or has such a mark of its own. -/
theorem Pattern.Cut.upTo_of_veil (hp : IsSecret p) (hmark : mark ∉ Redactor.standardPlaceholder)
    (h : p.Cut t ps)
    (hfound : ∀ w groups, .found w groups ∈ ps →
      (∀ d ∈ w, cls.holds d = true) ∨ ∀ after, UpTo cls mark kind False (w ++ after))
    (hback : ∀ {t' : Text} {ps' : List Piece}, p.Cut t' ps' → ps' <:+ ps → kind (veil ps') →
      kind t')
    (hveil : UpTo cls mark kind e (veil ps)) : UpTo cls mark kind e t := by
  obtain ⟨v, rest, hsplit, hempty, hv, hkind⟩ := hveil
  induction h generalizing v e with
  | done =>
    obtain ⟨-, hnil⟩ := List.append_eq_nil_iff.mp hsplit.symm
    exact nomatch hnil
  | @kept d after ps hnone hrest ih =>
    rw [veil_kept] at hsplit
    cases v with
    | nil =>
      obtain ⟨rfl, rfl⟩ := List.cons.inj hsplit
      exact ⟨[], after, rfl, hempty, hv, hback hrest (List.suffix_cons _ _) hkind⟩
    | cons c v =>
      obtain ⟨rfl, hafter⟩ := List.cons.inj hsplit
      obtain ⟨hd, hv⟩ := List.forall_mem_cons.mp hv
      have hlater : UpTo cls mark kind True after :=
        ih (fun w groups hw => hfound w groups (List.mem_cons_of_mem _ hw))
          (fun hcut hpieces => hback hcut (hpieces.trans (List.suffix_cons _ _)))
          v hafter (fun _ => trivial) hv
      exact hlater.append (List.cons_ne_nil d []) (List.forall_mem_singleton.mpr hd)
  -- the mark is in no placeholder, so it comes after the one that stands for the found word
  | @found w after groups ps htakes hrest ih =>
    rw [veil_found] at hsplit
    obtain ⟨v, rfl, hafter⟩ := append_of_placeholder hmark hsplit.symm
    obtain hall | hown := hfound w groups List.mem_cons_self
    · have hlater : UpTo cls mark kind True after :=
        ih (fun w groups hw => hfound w groups (List.mem_cons_of_mem _ hw))
          (fun hcut hpieces => hback hcut (hpieces.trans (List.suffix_cons _ _)))
          v hafter.symm (fun _ => trivial) (fun d hd => hv d (List.mem_append_right _ hd))
      have hpos := length_pos_of_words hp.notEmpty (htakes.words hp.isLocal)
      exact hlater.append (List.length_pos_iff.mp hpos) hall
    · exact (hown after).mono False.elim

end UpTo

section Credentials

variable {user pass : CharClass} {w : Text}

theorem endsPassword_iff {e : Prop} : EndsPassword pass e t ↔ UpTo pass '@' Visible e t := by
  constructor
  · rintro ⟨v, c, rest, rfl, hempty, hv, hc⟩
    exact ⟨v, c :: rest, rfl, hempty, hv, c, rest, rfl, hc⟩
  · rintro ⟨v, _, rfl, hempty, hv, c, rest, rfl, hc⟩
    exact ⟨v, c, rest, rfl, hempty, hv, hc⟩

theorem opens_iff : Opens user pass t ↔ UpTo user ':' (EndsPassword pass False) False t := by
  constructor
  · rintro ⟨u, v, c, rest, rfl, ⟨hune, hu⟩, ⟨hvne, hv⟩, hc⟩
    exact ⟨u, _, rfl, hune, hu, v, c, rest, rfl, hvne, hv, hc⟩
  · rintro ⟨u, _, rfl, hune, hu, v, c, rest, rfl, hvne, hv, hc⟩
    exact ⟨u, v, c, rest, rfl, ⟨hune, hu⟩, ⟨hvne, hv⟩, hc⟩

/-- What serves among credentials serves in a name. -/
theorem Passes.inName (h : Passes user pass w) : (∀ d ∈ w, user.holds d = true) ∨
    ∀ after, UpTo user ':' (EndsPassword pass False) False (w ++ after) := by
  cases h with
  | clear hall => exact .inl fun d hd => (hall d hd).1
  | @credentials u v rest c hu hv hc =>
    refine .inr fun after => opens_iff.mp ⟨u, v, c, rest ++ after, by simp, ?_, hv, hc⟩
    exact ⟨hu.1, fun d hd => (hu.2 d hd).1⟩

/-- It serves in a password, where a colon may stand. -/
theorem Passes.inPassword (hcolon : pass.holds ':' = true) (h : Passes user pass w) :
    (∀ d ∈ w, pass.holds d = true) ∨ ∀ after, UpTo pass '@' Visible False (w ++ after) := by
  cases h with
  | clear hall => exact .inl fun d hd => (hall d hd).2
  | @credentials u v rest c hu hv hc =>
    refine .inr fun after => endsPassword_iff.mp
      ⟨u ++ (':' : CodePoint) :: v, c, rest ++ after, by simp, fun hnil => ?_, ?_, hc⟩
    · exact nomatch (List.append_eq_nil_iff.mp hnil).2
    · refine List.forall_mem_append.mpr ⟨fun d hd => (hu.2 d hd).2, ?_⟩
      exact List.forall_mem_cons.mpr ⟨hcolon, hv.2⟩

variable (hp : IsSecret p) (hcolon : pass.holds ':' = true)

include hp hcolon

/-- The password of credentials, with what was replaced in place of placeholders. -/
theorem Pattern.Cut.password_of_veil (h : p.Cut t ps)
    (hpass : ∀ w groups, .found w groups ∈ ps → Passes user pass w)
    (hends : EndsPassword pass False (veil ps)) : EndsPassword pass False t := by
  rw [endsPassword_iff] at hends ⊢
  exact h.upTo_of_veil hp (by decide) (fun w groups hw => (hpass w groups hw).inPassword hcolon)
    (fun hcut _ => hcut.visible_of_veil hp) hends

/-- **Credentials in a veiled text** were credentials before, if all that was replaced may stand in
their place. -/
theorem Pattern.Cut.opens_of_veil (h : p.Cut t ps)
    (hpass : ∀ w groups, .found w groups ∈ ps → Passes user pass w)
    (hopens : Opens user pass (veil ps)) : Opens user pass t := by
  rw [opens_iff] at hopens ⊢
  refine h.upTo_of_veil hp (by decide) (fun w groups hw => (hpass w groups hw).inName) ?_ hopens
  intro t' ps' hcut hpieces
  exact hcut.password_of_veil hp hcolon fun w groups hw => hpass w groups (hpieces.subset hw)

/-- Rules that ask for credentials after a head without brackets. -/
theorem startsKept_credentials {head : List Pattern}
    (hq : IsSecret (all (head ++ credentials user pass)))
    (hhead : (all head).avoids '[' = true) (h : p.Cut t ps)
    (hpass : ∀ w groups, .found w groups ∈ ps → Passes user pass w)
    (hoccurs : (all (head ++ credentials user pass)).Occurs (veil ps)) :
    StartsKept (all (head ++ credentials user pass)) p t := by
  refine h.startsKept hq (fun hcut hpieces hnext => ?_) hoccurs
  obtain ⟨front, rest, hveil, hfront, hopens⟩ := next_credentials_iff.mp hnext
  obtain ⟨t', ps', rfl, hcut', rfl, hpieces'⟩ :=
    hcut.of_bracketless hveil (not_mem_of_avoids hhead hfront)
  have hpass' : ∀ w groups, .found w groups ∈ ps' → Passes user pass w :=
    fun w groups hw => hpass w groups ((hpieces'.trans hpieces).subset hw)
  exact next_credentials_iff.mpr
    ⟨front, t', rfl, hfront, hcut'.opens_of_veil hp hcolon hpass' hopens⟩

end Credentials

end LintMend
