/-
LintMend.Proofs.Address.Parts — the address of a service and the parts it is put together from.

Reading an address takes it apart: scheme, what stands before the last at sign, host with port, and
the rest. Here the parts come first, together with what they must not hold so that each is found
again: no slash, question mark or number sign before the rest, and no at sign in the place of the
host.

  `AddressParts`              — an address by its parts
  `AddressParts.Valid`        — parts that are found again
  `location_append`           — the place is what follows the last at sign
  `exists_parts`              — what follows a scheme can be taken apart
  `read_eq_ok_iff`            — reading the address of a service is finding its parts
  `AddressParts.Valid.place_eq` — there is only one way to take an address apart
-/
import LintMend.Address.Loopback
import LintMend.Proofs.Text.Cutting
import LintMend.Proofs.Text.Trimming

namespace LintMend

/-- An address of a service in parts. -/
structure AddressParts where
  scheme : Text
  /-- What stands before the host, up to the last at sign. -/
  user : Text
  /-- The host and its port. -/
  place : Text
  /-- Path, query and fragment. -/
  rest : Text

namespace AddressParts

/-- The authority of an address: all between the slashes and the rest. -/
def authority (p : AddressParts) : Text :=
  p.user ++ p.place

/-- The address as it is written. -/
def text (p : AddressParts) : Text :=
  p.scheme ++ "://" ++ p.authority ++ p.rest

/-- Parts that are found again in the text of the address. -/
structure Valid (p : AddressParts) : Prop where
  scheme : p.scheme.toLowerLatin ∈ serviceSchemes
  user : p.user = [] ∨ ∃ name, p.user = name ++ [('@' : CodePoint)]
  place : ('@' : CodePoint) ∉ p.place
  authority : ∀ c ∈ p.authority, WebAddress.endsAuthority c = false
  rest : ∀ c, p.rest.head? = some c → WebAddress.endsAuthority c = true

end AddressParts

namespace WebAddress

variable {t user place authority rest : Text} {scheme : Text}

/-! ## 1. The scheme -/

/-- A letter is one whether it is small or not. -/
theorem isSchemeStart_of_lowerLatin {c : CodePoint} (h : isSchemeStart c.lowerLatin = true) :
    isSchemeStart c = true := by
  rw [CodePoint.lowerLatin] at h
  split at h
  · next hlarge => simp [isSchemeStart, hlarge]
  · exact h

theorem isSchemeChar_of_isSchemeStart {c : CodePoint} (h : isSchemeStart c = true) :
    isSchemeChar c = true := by
  simp only [isSchemeStart, Bool.or_eq_true] at h
  obtain h | h := h
  · simp [isSchemeChar, h]
  · simp [isSchemeChar, h]

theorem serviceSchemes_letters : ∀ s ∈ serviceSchemes, s ≠ [] ∧ ∀ c ∈ s, isSchemeStart c = true := by
  decide

/-- A scheme of services is made of letters. -/
theorem letters_of_scheme (h : scheme.toLowerLatin ∈ serviceSchemes) :
    scheme ≠ [] ∧ ∀ c ∈ scheme, isSchemeStart c = true := by
  obtain ⟨hne, hletters⟩ := serviceSchemes_letters _ h
  refine ⟨fun hnil => hne (by rw [hnil]; rfl), fun c hc => ?_⟩
  exact isSchemeStart_of_lowerLatin (hletters _ (List.mem_map.mpr ⟨c, hc, rfl⟩))

/-- **The scheme of a service** is what stands before the first colon, in small letters. -/
theorem splitScheme_eq_iff {small : Text} (hsmall : small ∈ serviceSchemes) :
    splitScheme t = (small, rest) ↔
      ∃ scheme : Text, t = scheme ++ ":" ++ rest ∧ scheme.toLowerLatin = small := by
  have hnone : ([], t) ≠ (small, rest) :=
    fun h => (serviceSchemes_letters _ hsmall).1 (Prod.mk.inj h).1.symm
  constructor
  · intro h
    rw [splitScheme] at h
    split at h
    · next scheme after hcut =>
      split at h
      · obtain ⟨hlower, rfl⟩ := Prod.mk.inj h
        refine ⟨scheme, ?_, hlower⟩
        rw [(Text.cut?_eq_some_iff.mp hcut).1]
        simp [Text.ofString]
      · exact absurd h hnone
    · exact absurd h hnone
  · rintro ⟨scheme, rfl, rfl⟩
    obtain ⟨hne, hletters⟩ := letters_of_scheme hsmall
    have hchars : ∀ c ∈ scheme, isSchemeChar c = true :=
      fun c hc => isSchemeChar_of_isSchemeStart (hletters c hc)
    have hcolon : (':' : CodePoint) ∉ scheme := fun hmem => absurd (hchars _ hmem) (by decide)
    have hcut : Text.cut? ':' (scheme ++ ":" ++ rest) = some (scheme, rest) :=
      Text.cut?_eq_some_iff.mpr ⟨by simp [Text.ofString], hcolon⟩
    have hstart : (scheme.head?.map isSchemeStart).getD false = true := by
      cases scheme with
      | nil => exact absurd rfl hne
      | cons c scheme => exact hletters c List.mem_cons_self
    rw [splitScheme, hcut]
    simp [hstart, List.all_eq_true.mpr hchars]

/-! ## 2. The authority -/

/-- What follows the last at sign. -/
theorem location_append (huser : user = [] ∨ ∃ name, user = name ++ [('@' : CodePoint)])
    (hplace : ('@' : CodePoint) ∉ place) : location (user ++ place) = place := by
  rw [location]
  obtain rfl | ⟨name, rfl⟩ := huser
  · rw [List.nil_append, Text.cutLast?_eq_none_iff.mpr hplace]
  · rw [Text.cutLast?_eq_some_iff.mpr ⟨by rw [List.append_assoc, List.singleton_append], hplace⟩]

/-- Every authority is something up to an at sign, or nothing, and a place without one. -/
theorem exists_location (authority : Text) :
    ∃ user, authority = user ++ location authority ∧
      (user = [] ∨ ∃ name, user = name ++ [('@' : CodePoint)]) ∧
      ('@' : CodePoint) ∉ location authority := by
  rw [location]
  split
  · next name place hcut =>
    obtain ⟨hsplit, hplace⟩ := Text.cutLast?_eq_some_iff.mp hcut
    exact ⟨name ++ [('@' : CodePoint)], by simpa using hsplit, Or.inr ⟨name, rfl⟩, hplace⟩
  · next hcut =>
    exact ⟨[], rfl, Or.inl rfl, Text.cutLast?_eq_none_iff.mp hcut⟩

/-- The place of the host in the text of an address of a service. -/
def placeOf (t : Text) : Text :=
  location (((Text.dropStart? "//" (splitScheme t).2).getD []).takeWhile (!endsAuthority ·))

end WebAddress

namespace AddressParts.Valid

variable {p : AddressParts}

theorem splitScheme_text (h : p.Valid) :
    WebAddress.splitScheme p.text =
      (p.scheme.toLowerLatin, "//" ++ (p.authority ++ p.rest)) := by
  refine (WebAddress.splitScheme_eq_iff h.scheme).mpr ⟨p.scheme, ?_, rfl⟩
  simp [text, Text.ofString]

theorem takeWhile_authority (h : p.Valid) :
    (p.authority ++ p.rest).takeWhile (!WebAddress.endsAuthority ·) = p.authority :=
  Text.takeWhile_cut_iff.mpr ⟨p.rest, rfl, h.authority, h.rest⟩

/-- There is one way to take the address of a service apart. -/
theorem place_eq (h : p.Valid) : WebAddress.placeOf p.text = p.place := by
  rw [WebAddress.placeOf, h.splitScheme_text, Text.dropStart?_eq_some_iff.mpr rfl, Option.getD_some,
    h.takeWhile_authority]
  exact WebAddress.location_append h.user h.place

end AddressParts.Valid

/-! ## 3. Reading -/

namespace WebAddress

variable {scheme authority : Text}

/-- Whatever follows the scheme of a service and two slashes can be taken apart. -/
theorem exists_parts (hscheme : scheme.toLowerLatin ∈ serviceSchemes) (rest : Text) :
    ∃ p : AddressParts, p.Valid ∧ p.text = scheme ++ "://" ++ rest ∧ p.scheme = scheme ∧
      p.authority = rest.takeWhile (!endsAuthority ·) := by
  obtain ⟨tail, htail, hfront, hend⟩ :=
    Text.takeWhile_cut_iff.mp (rfl : rest.takeWhile (!endsAuthority ·) = _)
  obtain ⟨user, huser, hat, hplace⟩ := exists_location (rest.takeWhile (!endsAuthority ·))
  generalize rest.takeWhile (!endsAuthority ·) = authority at *
  have hauthority : user ++ location authority = authority := huser.symm
  refine ⟨⟨scheme, user, location authority, tail⟩, ⟨hscheme, hat, hplace, ?_, hend⟩, ?_, rfl,
    hauthority⟩
  · exact fun c hc => hfront c (hauthority ▸ hc)
  · rw [AddressParts.text, AddressParts.authority, hauthority, htail, List.append_assoc]

theorem any_lookalikes_eq_false_iff :
    (authority.any fun c => lookalikes.contains c.val) = false ↔
      ∀ c ∈ authority, c.val ∉ lookalikes := by
  simp

/-- **Reading the address of a service** is finding its parts, unless the authority is refused. -/
theorem read_eq_ok_iff {url : Text} {a : WebAddress} :
    (read url = .ok a ∧ a.scheme ∈ serviceSchemes ∧ a.authority ≠ []) ↔
      ∃ p : AddressParts, clean url = p.text ∧ p.Valid ∧ p.authority ≠ [] ∧
        a = ⟨p.scheme.toLowerLatin, p.authority⟩ ∧ checkBrackets p.authority = .ok () ∧
        ∀ c ∈ p.authority, c.val ∉ lookalikes := by
  constructor
  · rintro ⟨hread, hscheme, hne⟩
    rw [read] at hread
    generalize hsplit : splitScheme (clean url) = split at hread
    obtain ⟨small, after⟩ := split
    dsimp only at hread
    split at hread
    · obtain rfl := Except.ok.inj hread
      exact absurd rfl hne
    · next rest hslashes =>
      split at hread
      · exact nomatch hread
      · next hbrackets =>
        split at hread
        · exact nomatch hread
        · next hlookalikes =>
          obtain rfl := Except.ok.inj hread
          obtain ⟨scheme, hurl, rfl⟩ := (splitScheme_eq_iff hscheme).mp hsplit
          obtain ⟨p, hvalid, htext, rfl, hauthority⟩ := exists_parts hscheme rest
          rw [← hauthority] at hbrackets hlookalikes hne
          refine ⟨p, ?_, hvalid, hne, by rw [hauthority], hbrackets, ?_⟩
          · rw [hurl, Text.dropStart?_eq_some_iff.mp hslashes, htext]
            simp [Text.ofString]
          · exact any_lookalikes_eq_false_iff.mp (Bool.eq_false_iff.mpr hlookalikes)
  · rintro ⟨p, hurl, hvalid, hne, rfl, hbrackets, hlookalikes⟩
    refine ⟨?_, hvalid.scheme, hne⟩
    have hany := any_lookalikes_eq_false_iff.mpr hlookalikes
    rw [read, hurl, hvalid.splitScheme_text]
    simp only [Text.dropStart?_eq_some_iff.mpr rfl, hvalid.takeWhile_authority, hbrackets, hany]
    rfl

end WebAddress

end LintMend
