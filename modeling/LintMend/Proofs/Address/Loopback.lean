/-
LintMend.Proofs.Address.Loopback — which addresses may be asked without leave for remote ones.

The check looks at the host that reading an address gives, in small letters and without brackets.
Here it is turned round: the addresses that pass are written down as text. The host is `localhost`
in any letters, an address of version 4 that starts with 127, or, in brackets, the loopback address
of version 6. Reading is lenient at one point: a bracket before the last at sign counts as the one
that closes the host's.

  `IsLoopbackPlace`             — host and port on the own machine
  `AddressParts.Unclosed`       — the host whose closing bracket stands elsewhere
  `isLocalHost_host_iff`        — the host of an authority, as it is written
  `passes_iff`                  — the authorities that are read and lead to the own machine
  `serviceAllowed_iff_loopback` — the addresses that may be asked, as text
-/
import LintMend.Configuration.Section
import LintMend.Proofs.Address.Numeric
import LintMend.Proofs.Address.Parts

namespace LintMend

open InternetAddress

/-- Nothing, or a colon and a port. -/
def IsPort (t : Text) : Prop :=
  t = [] ∨ ∃ port, t = (':' : CodePoint) :: port

/-- A host on the own machine that is written without brackets. -/
def IsLoopbackName (host : Text) : Prop :=
  host.toLowerLatin = "localhost" ∨ IsLoopback4 host

/-- Host and port on the own machine. -/
inductive IsLoopbackPlace : Text → Prop where
  | bare {host port : Text} (hhost : IsLoopbackName host) (hport : IsPort port) :
      IsLoopbackPlace (host ++ port)
  | bracketed {inside port : Text} (hinside : number6? inside = some 1)
      (hclosed : (']' : CodePoint) ∉ inside) (hport : IsPort port) :
      IsLoopbackPlace ("[" ++ inside ++ "]" ++ port)

namespace AddressParts

/-- The loopback address after a bracket that is closed only before the last at sign. -/
def Unclosed (p : AddressParts) : Prop :=
  (']' : CodePoint) ∈ p.user ∧ ∃ inside, p.place = "[" ++ inside ∧ (']' : CodePoint) ∉ inside ∧
    number6? inside = some 1

/-- There are brackets in the authority only if the host starts with one. -/
def BracketsPaired (p : AddressParts) : Prop :=
  p.place.head? = some ('[' : CodePoint) ∨
    (('[' : CodePoint) ∉ p.authority ∧ (']' : CodePoint) ∉ p.authority)

/-- An address that reading does not refuse: its brackets are the host's, and there are no
look-alikes of separators. -/
structure Readable (p : AddressParts) : Prop where
  brackets : p.BracketsPaired
  lookalikes : ∀ c ∈ p.authority, c.val ∉ WebAddress.lookalikes

/-- The address of a service on the own machine. -/
def LeadsHome (p : AddressParts) : Prop :=
  p.Valid ∧ p.Readable ∧ (IsLoopbackPlace p.place ∨ p.Unclosed)

end AddressParts

namespace WebAddress

variable {w place user : Text}

/-! ## 1. The host as it is written -/

/-- A written host that is one of the own machine. -/
def IsLocalWritten (w : Text) : Prop :=
  IsLoopbackName w ∨ number6? w = some 1

theorem plain_localhost : ∀ c ∈ Text.ofString "localhost", c.IsPlain ∧ ¬ c.IsCaseless ∧
    c.lowerLatin ≠ ('v' : CodePoint) := by
  decide

theorem isLocalHost_iff {host : Text} :
    isLocalHost host = true ↔ host = "localhost" ∨ IsLoopback4 host ∨ number6? host = some 1 := by
  rw [isLocalHost, Bool.or_eq_true, beq_iff_eq, isLoopback_iff]

theorem caseless_of_isLoopback4 (h : IsLoopback4 w) : ∀ c ∈ w, c.IsCaseless := by
  obtain ⟨b, c, d, -, rfl⟩ := h
  exact fun e he => (caseless_of_mem_written4 he).1

/-- In the loopback address, only the zone can hold letters. -/
theorem caseless_of_number6?_zone {address zone : Text} (haddress : ('%' : CodePoint) ∉ address)
    (h : number6? (address ++ ('%' : CodePoint) :: zone) = some 1) :
    ∀ c ∈ address, c.IsCaseless := by
  obtain ⟨address', zone', hplain, haddress', -, hsame | hsame⟩ := of_number6? h
  · exact absurd (hsame ▸ by simp) haddress'
  · have hcut := Text.cut?_eq_some_iff.mpr ⟨hsame, haddress'⟩
    rw [Text.cut?_eq_some_iff.mpr ⟨rfl, haddress⟩] at hcut
    rw [(Prod.mk.inj (Option.some.inj hcut)).1]
    exact caseless_of_plainNumber6? hplain

theorem caseless_of_number6?_bare {address : Text} (haddress : ('%' : CodePoint) ∉ address)
    (h : number6? address = some 1) : ∀ c ∈ address, c.IsCaseless := by
  obtain ⟨address', zone, hplain, -, -, rfl | rfl⟩ := of_number6? h
  · exact caseless_of_plainNumber6? hplain
  · exact absurd (by simp) haddress

/-- A text with a percent sign is none of the names, in whatever capitals. -/
theorem not_named_of_percent {t : Text} (ht : ('%' : CodePoint) ∈ t) :
    t ≠ "localhost" ∧ t.toLowerLatin ≠ "localhost" ∧ ¬ IsLoopback4 t := by
  refine ⟨fun h => ?_, fun h => ?_, fun h => ?_⟩
  · exact absurd (h ▸ ht : ('%' : CodePoint) ∈ Text.ofString "localhost") (by decide)
  · have hmem : CodePoint.lowerLatin '%' ∈ Text.ofString "localhost" :=
      h ▸ List.mem_map.mpr ⟨_, ht, rfl⟩
    exact absurd hmem (by decide)
  · exact absurd (caseless_of_isLoopback4 h _ ht) (by decide)

theorem percent_not_mem_toLower {t : Text} (ht : ('%' : CodePoint) ∉ t) :
    ('%' : CodePoint) ∉ t.toLower :=
  fun h => ht (Text.mem_of_mem_toLower (by decide) h)

/-- What holds of caseless texts alone, holds of a text in small letters just when it holds of the
text. -/
theorem toLower_iff_of_caseless {P : Text → Prop} {u : Text}
    (hP : ∀ t, ('%' : CodePoint) ∉ t → P (t ++ u) → ∀ c ∈ t, c.IsCaseless)
    (hw : ('%' : CodePoint) ∉ w) : P (w.toLower ++ u) ↔ P (w ++ u) := by
  constructor
  · intro h
    have hcaseless := hP w.toLower (percent_not_mem_toLower hw) h
    rwa [← (Text.toLower_eq_iff_of_caseless hcaseless).mp rfl] at h
  · intro h
    rwa [(Text.toLower_eq_iff_of_caseless (hP w hw h)).mpr rfl]

/-- **The host of an authority** is one of the own machine just when it is written as one, capitals
aside. -/
theorem isLocalHost_host_iff (a : WebAddress) :
    isLocalHost a.host = true ↔ IsLocalWritten (writtenHost a.authority) := by
  rw [isLocalHost_iff, WebAddress.host, IsLocalWritten, IsLoopbackName, or_assoc]
  generalize writtenHost a.authority = w
  split
  -- with a zone the host can only be the loopback address of the second kind
  · next address zone hcut =>
    obtain ⟨rfl, haddress⟩ := Text.cut?_eq_some_iff.mp hcut
    have hhost : address.toLower ++ "%" ++ zone = address.toLower ++ ('%' : CodePoint) :: zone := by
      simp [Text.ofString]
    obtain ⟨hname, -, hfour⟩ :=
      not_named_of_percent (t := address.toLower ++ ('%' : CodePoint) :: zone) (by simp)
    obtain ⟨-, hname', hfour'⟩ :=
      not_named_of_percent (t := address ++ ('%' : CodePoint) :: zone) (by simp)
    simp only [hhost, hname, hname', hfour, hfour', false_or]
    exact toLower_iff_of_caseless (P := fun t => number6? t = some 1)
      (fun t => caseless_of_number6?_zone) haddress
  · next hcut =>
    have hnone : ('%' : CodePoint) ∉ w := Text.cut?_eq_none_iff.mp hcut
    have hfour : IsLoopback4 w.toLower ↔ IsLoopback4 w := by
      simpa using toLower_iff_of_caseless (P := IsLoopback4) (u := [])
        (fun t _ h => caseless_of_isLoopback4 (by simpa using h)) hnone
    have hsix : number6? w.toLower = some 1 ↔ number6? w = some 1 := by
      simpa using toLower_iff_of_caseless (P := fun t => number6? t = some 1) (u := [])
        (fun t ht h => caseless_of_number6?_bare ht (by simpa using h)) hnone
    rw [Text.toLower_eq_iff fun c hc => (plain_localhost c hc).1, hfour, hsix]

/-! ## 2. The brackets of an authority -/

/-- The text before the first colon is a text without one, with a port after it or nothing. -/
theorem upTo_colon (t : Text) : ∃ port, t = upTo ':' t ++ port ∧ IsPort port := by
  rw [upTo]
  split
  · next left port hcut => exact ⟨':' :: port, (Text.cut?_eq_some_iff.mp hcut).1, Or.inr ⟨port, rfl⟩⟩
  · exact ⟨[], (List.append_nil t).symm, Or.inl rfl⟩

theorem upTo_append {t port : Text} (ht : (':' : CodePoint) ∉ t) (hport : IsPort port) :
    upTo ':' (t ++ port) = t := by
  obtain rfl | ⟨port, rfl⟩ := hport
  · rw [List.append_nil, upTo, Text.cut?_eq_none_iff.mpr ht]
  · rw [upTo, Text.cut?_eq_some_iff.mpr ⟨rfl, ht⟩]

/-- The name of the own machine and its addresses of version 4 hold no colon. -/
theorem colon_of_isLoopbackName (h : IsLoopbackName w) : (':' : CodePoint) ∉ w := by
  intro hcolon
  obtain hname | ⟨b, c, d, -, rfl⟩ := h
  · have hmem : CodePoint.lowerLatin ':' ∈ Text.ofString "localhost" :=
      hname ▸ List.mem_map.mpr ⟨_, hcolon, rfl⟩
    exact absurd hmem (by decide)
  · exact (caseless_of_mem_written4 hcolon).2 rfl

/-- They hold no brackets and no at sign either, and do not start with a `v`. -/
theorem mark_of_isLoopbackName (h : IsLoopbackName w) {c : CodePoint} (hc : c ∈ w) :
    c ≠ '[' ∧ c ≠ ']' ∧ c ≠ '@' ∧ c ≠ 'v' := by
  obtain hname | hfour := h
  · have hmem : c.lowerLatin ∈ Text.ofString "localhost" := hname ▸ List.mem_map.mpr ⟨c, hc, rfl⟩
    refine ⟨?_, ?_, ?_, ?_⟩
    all_goals
      rintro rfl
      exact absurd hmem (by decide)
  · have hcaseless := caseless_of_isLoopback4 hfour c hc
    refine ⟨?_, ?_, ?_, ?_⟩
    all_goals
      rintro rfl
      exact absurd hcaseless (by decide)

/-- In brackets, only the loopback address of version 6 is let through. -/
theorem checkHost_eq_ok_iff (h : IsLocalWritten w) : checkHost w = .ok () ↔ number6? w = some 1 := by
  have hfirst : Text.startsWith "v" w = false := by
    cases w with
    | nil => rfl
    | cons c w =>
      have hc : c ≠ ('v' : CodePoint) := by
        obtain hname | hsix := h
        · exact (mark_of_isLoopbackName hname List.mem_cons_self).2.2.2
        · obtain ⟨first, rest, hsame, hcaseless⟩ := caseless_of_number6? hsix
          obtain ⟨rfl, -⟩ := List.cons.inj hsame
          rintro rfl
          exact absurd hcaseless (by decide)
      show (decide (('v' : CodePoint) = c) && true) = false
      rw [decide_eq_false (Ne.symm hc), Bool.false_and]
  rw [checkHost, hfirst, if_neg Bool.false_ne_true, ofText?]
  obtain hname | hsix := h
  · have hno6 : ∀ n, number6? w ≠ some n :=
      fun n hn => colon_of_isLoopbackName hname (colon_of_number6? hn)
    cases hfour : number4? w with
    | some n => simp [hno6 1]
    | none =>
      rw [Option.eq_none_iff_forall_ne_some.mpr hno6]
      simp
  · rw [number4?_of_colon (colon_of_number6? hsix), hsix]
    simp

/-! ## 3. The authority -/

/-- **The brackets are accepted** if there are none, or there are both, the host is accepted in
brackets, and nothing but a port stands beside them. -/
theorem checkBrackets_eq_ok_iff {authority : Text} :
    checkBrackets authority = .ok () ↔
      (('[' : CodePoint) ∉ authority ∧ (']' : CodePoint) ∉ authority) ∨
      (('[' : CodePoint) ∈ authority ∧ (']' : CodePoint) ∈ authority ∧
        checkHost (writtenHost authority) = .ok () ∧
        ∀ before inside, Text.cut? '[' (location authority) = some (before, inside) →
          before = [] ∧ ∀ left c right, Text.cut? ']' inside = some (left, c :: right) → c = ':') := by
  have hhas : ∀ c, authority.has c = decide (c ∈ authority) := fun c => by
    rw [Text.has, List.elem_eq_mem]
  rw [checkBrackets, hhas, hhas]
  by_cases hopen : ('[' : CodePoint) ∈ authority
  · by_cases hclose : (']' : CodePoint) ∈ authority
    · simp only [hopen, hclose, decide_true, bne_self_eq_false, Bool.false_eq_true, if_false,
        Bool.not_true, not_true_eq_false, false_and, false_or, true_and]
      cases hcut : Text.cut? '[' (location authority) with
      | none => simp
      | some sides =>
        obtain ⟨before, inside⟩ := sides
        cases before with
        | cons c before => simp
        | nil =>
          cases hend : Text.cut? ']' inside with
          | none => simp [hend]
          | some sides =>
            obtain ⟨left, right⟩ := sides
            cases right with
            | nil => simp [hend]
            | cons c right =>
              by_cases hc : c = ':'
              · simp [hend, hc]
              · simp [hend, hc]
    · simp [hopen, hclose]
  · by_cases hclose : (']' : CodePoint) ∈ authority
    · simp [hopen, hclose]
    · simp [hopen, hclose]

/-- The authority whose place has no bracket. -/
theorem passes_iff_of_bare (hlocation : location (user ++ place) = place)
    (hopen : ('[' : CodePoint) ∉ place) :
    (checkBrackets (user ++ place) = .ok () ∧ IsLocalWritten (writtenHost (user ++ place))) ↔
      (('[' : CodePoint) ∉ user ++ place ∧ (']' : CodePoint) ∉ user ++ place) ∧
        IsLoopbackName (upTo ':' place) := by
  have hwritten : writtenHost (user ++ place) = upTo ':' place := by
    rw [writtenHost, hlocation, Text.cut?_eq_none_iff.mpr hopen]
  have hcolon : (':' : CodePoint) ∉ upTo ':' place := by
    rw [upTo]
    split
    · next hcut => exact (Text.cut?_eq_some_iff.mp hcut).2
    · next hcut => exact Text.cut?_eq_none_iff.mp hcut
  have hno6 : number6? (upTo ':' place) ≠ some 1 := fun h => hcolon (colon_of_number6? h)
  have hhost : IsLocalWritten (upTo ':' place) ↔ IsLoopbackName (upTo ':' place) :=
    or_iff_left hno6
  rw [checkBrackets_eq_ok_iff, hwritten]
  constructor
  · rintro ⟨hnone | ⟨-, -, hcheck, -⟩, hlocal⟩
    · exact ⟨hnone, hhost.mp hlocal⟩
    · exact absurd ((checkHost_eq_ok_iff hlocal).mp hcheck) hno6
  · rintro ⟨hnone, hname⟩
    exact ⟨Or.inl hnone, hhost.mpr hname⟩

/-- The authority whose place starts with a bracket. -/
theorem passes_iff_of_bracket {inside : Text} (hlocation : location (user ++ place) = place)
    (hplace : place = ('[' : CodePoint) :: inside) :
    (checkBrackets (user ++ place) = .ok () ∧ IsLocalWritten (writtenHost (user ++ place))) ↔
      (']' : CodePoint) ∈ user ++ place ∧ number6? (upTo ']' inside) = some 1 ∧
        ∀ left c right, Text.cut? ']' inside = some (left, c :: right) → c = ':' := by
  have hcut : Text.cut? '[' place = some ([], inside) :=
    Text.cut?_eq_some_iff.mpr ⟨hplace, List.not_mem_nil⟩
  have hwritten : writtenHost (user ++ place) = upTo ']' inside := by
    rw [writtenHost, hlocation, hcut]
  have hmem : ('[' : CodePoint) ∈ user ++ place := by simp [hplace]
  rw [checkBrackets_eq_ok_iff, hwritten, hlocation, hcut]
  constructor
  · rintro ⟨⟨hno, -⟩ | ⟨-, hclose, hcheck, hport⟩, hlocal⟩
    · exact absurd hmem hno
    · exact ⟨hclose, (checkHost_eq_ok_iff hlocal).mp hcheck, (hport [] inside rfl).2⟩
  · rintro ⟨hclose, hsix, hport⟩
    have hlocal : IsLocalWritten (upTo ']' inside) := Or.inr hsix
    refine ⟨Or.inr ⟨hmem, hclose, (checkHost_eq_ok_iff hlocal).mpr hsix, ?_⟩, hlocal⟩
    intro before after hsame
    obtain ⟨rfl, rfl⟩ := Prod.mk.inj (Option.some.inj hsame)
    exact ⟨rfl, hport⟩

/-- An opening bracket that is not the first of its place is refused. -/
theorem passes_of_bracket_later {before inside : Text} (hlocation : location (user ++ place) = place)
    (hcut : Text.cut? '[' place = some (before, inside))
    (h : checkBrackets (user ++ place) = .ok ()) : before = [] := by
  have hmem : ('[' : CodePoint) ∈ user ++ place := by
    simp [(Text.cut?_eq_some_iff.mp hcut).1]
  obtain ⟨hno, -⟩ | ⟨-, -, -, hbefore⟩ := checkBrackets_eq_ok_iff.mp h
  · exact absurd hmem hno
  · exact (hbefore before inside (hlocation.symm ▸ hcut)).1

end WebAddress

namespace AddressParts

open WebAddress

variable {p : AddressParts}

theorem isLoopbackPlace_bare (hopen : p.place.head? ≠ some ('[' : CodePoint)) :
    IsLoopbackPlace p.place ↔ IsLoopbackName (upTo ':' p.place) := by
  constructor
  · intro h
    generalize hplace : p.place = place at h hopen
    cases h with
    | bare hhost hport => rwa [upTo_append (colon_of_isLoopbackName hhost) hport]
    | bracketed => exact absurd (by simp [Text.ofString]) hopen
  · intro h
    obtain ⟨port, hsplit, hport⟩ := upTo_colon p.place
    rw [hsplit]
    exact .bare h hport

theorem isLoopbackPlace_bracket {inside : Text} (hplace : p.place = ('[' : CodePoint) :: inside) :
    IsLoopbackPlace p.place ↔
      ∃ left port, Text.cut? ']' inside = some (left, port) ∧ number6? left = some 1 ∧ IsPort port := by
  constructor
  · intro h
    generalize p.place = place at h hplace
    cases h with
    | @bare host port hhost hport =>
      cases host with
      | nil =>
        obtain hname | ⟨b, c, d, -, hfour⟩ := hhost
        · exact absurd hname (by decide)
        · exact absurd hfour (by simp [written4, Text.ofString])
      | cons c host =>
        obtain ⟨rfl, -⟩ := List.cons.inj hplace
        exact absurd rfl (mark_of_isLoopbackName hhost List.mem_cons_self).1
    | @bracketed within port hsix hclosed hport =>
      refine ⟨within, port, Text.cut?_eq_some_iff.mpr ⟨?_, hclosed⟩, hsix, hport⟩
      have hsame : ('[' : CodePoint) :: (within ++ (']' : CodePoint) :: port) =
          ('[' : CodePoint) :: inside := by
        rw [← hplace]
        simp [Text.ofString]
      exact (List.cons.inj hsame).2.symm
  · rintro ⟨left, port, hcut, hsix, hport⟩
    obtain ⟨hinside, hclosed⟩ := Text.cut?_eq_some_iff.mp hcut
    have hwritten : p.place = "[" ++ left ++ "]" ++ port := by
      rw [hplace, hinside]
      simp [Text.ofString]
    rw [hwritten]
    exact .bracketed hsix hclosed hport

theorem unclosed_iff {inside : Text} (hplace : p.place = ('[' : CodePoint) :: inside) :
    p.Unclosed ↔ (']' : CodePoint) ∈ p.user ∧ (']' : CodePoint) ∉ inside ∧
      number6? inside = some 1 := by
  rw [Unclosed, hplace]
  refine and_congr_right fun _ => ⟨?_, fun ⟨hclosed, hsix⟩ => ⟨inside, rfl, hclosed, hsix⟩⟩
  rintro ⟨within, hsame, hclosed, hsix⟩
  obtain rfl : inside = within := (List.cons.inj hsame).2
  exact ⟨hclosed, hsix⟩

/-- The authority whose place starts with a bracket leads to the own machine if what it holds up to
the closing bracket is the loopback address, and only a port follows. -/
theorem passes_iff_of_head {inside : Text} (hvalid : p.Valid)
    (hplace : p.place = ('[' : CodePoint) :: inside) :
    (checkBrackets p.authority = .ok () ∧ IsLocalWritten (writtenHost p.authority)) ↔
      IsLoopbackPlace p.place ∨ p.Unclosed := by
  rw [authority, passes_iff_of_bracket (location_append hvalid.user hvalid.place) hplace,
    isLoopbackPlace_bracket hplace, unclosed_iff hplace, upTo]
  cases hcut : Text.cut? ']' inside with
  | none =>
    have hclosed : (']' : CodePoint) ∉ inside := Text.cut?_eq_none_iff.mp hcut
    have hmem : (']' : CodePoint) ∈ p.user ++ p.place ↔ (']' : CodePoint) ∈ p.user := by
      have hne : (']' : CodePoint) ≠ '[' := by decide
      simp [hplace, hclosed, hne]
    simp [hmem, hclosed]
  | some sides =>
    obtain ⟨left, port⟩ := sides
    have hmem : (']' : CodePoint) ∈ inside := by simp [(Text.cut?_eq_some_iff.mp hcut).1]
    have hauthority : (']' : CodePoint) ∈ p.user ++ p.place := by simp [hplace, hmem]
    have hport : (∀ front c right, some (left, port) = some (front, c :: right) → c = ':') ↔
        IsPort port := by
      cases port with
      | nil => simp [IsPort]
      | cons c port => simp [IsPort]
    simp only [hauthority, hmem, hport]
    simp

/-- **The authorities that pass**: they are readable, and lead to the own machine. -/
theorem passes_iff (hvalid : p.Valid) :
    (checkBrackets p.authority = .ok () ∧ IsLocalWritten (writtenHost p.authority)) ↔
      p.BracketsPaired ∧ (IsLoopbackPlace p.place ∨ p.Unclosed) := by
  have hlocation : location (p.user ++ p.place) = p.place :=
    location_append hvalid.user hvalid.place
  cases hcut : Text.cut? '[' p.place with
  | none =>
    have hopen : ('[' : CodePoint) ∉ p.place := Text.cut?_eq_none_iff.mp hcut
    have hhead : p.place.head? ≠ some ('[' : CodePoint) :=
      fun h => hopen (List.mem_of_mem_head? h)
    have hunclosed : ¬ p.Unclosed := by
      rintro ⟨-, inside, hplace, -⟩
      exact hopen (hplace ▸ by simp [Text.ofString])
    rw [authority, passes_iff_of_bare hlocation hopen, isLoopbackPlace_bare hhead, BracketsPaired]
    simp only [hhead, hunclosed, false_or, or_false]
    exact Iff.rfl
  | some sides =>
    obtain ⟨before, inside⟩ := sides
    obtain ⟨hplace, hbefore⟩ := Text.cut?_eq_some_iff.mp hcut
    cases before with
    | nil =>
      have hhead : p.place.head? = some ('[' : CodePoint) := by rw [hplace]; rfl
      rw [passes_iff_of_head hvalid hplace, BracketsPaired]
      simp only [hhead, true_or, true_and]
    -- a bracket that is not in front of the host passes neither check
    | cons c before =>
      have hhead : p.place.head? ≠ some ('[' : CodePoint) := by
        rw [hplace]
        rintro hc
        exact hbefore (Option.some.inj hc ▸ List.mem_cons_self)
      have hmem : ('[' : CodePoint) ∈ p.authority := by simp [authority, hplace]
      constructor
      · rintro ⟨hcheck, -⟩
        exact absurd (passes_of_bracket_later hlocation hcut hcheck) (List.cons_ne_nil c before)
      · rintro ⟨hstart | ⟨hno, -⟩, -⟩
        · exact absurd hstart hhead
        · exact absurd hmem hno

theorem authority_ne_nil (h : IsLocalWritten (writtenHost p.authority)) : p.authority ≠ [] := by
  intro hnil
  rw [hnil] at h
  obtain (hname | hfour) | hsix := h
  · exact absurd hname (by decide)
  · obtain ⟨n, hnumber, -⟩ := isLoopback4_iff.mp hfour
    have hnone : number4? (writtenHost []) = none := by decide
    exact nomatch hnone.symm.trans hnumber
  · exact absurd hsix (by decide)

end AddressParts

/-! ## 4. The addresses that may be asked -/

open WebAddress in
/-- What is asked of an address that was read. -/
theorem serviceAllowed_eq_true_iff {url : Text} :
    serviceAllowed url false = .ok true ↔ ∃ a, WebAddress.read url = .ok a ∧
      a.scheme ∈ serviceSchemes ∧ IsLocalWritten (writtenHost a.authority) := by
  have hhost : ∀ a : WebAddress, isLocalHost a.host = true → a.host ≠ [] := by
    intro a h hnil
    rw [hnil] at h
    exact absurd h (by decide)
  rw [serviceAllowed]
  split
  · next hempty =>
    rw [List.isEmpty_iff.mp hempty]
    constructor
    · intro h
      exact nomatch h
    · rintro ⟨a, hread, hscheme, -⟩
      obtain rfl : (⟨[], []⟩ : WebAddress) = a := Except.ok.inj hread
      exact absurd hscheme (by decide)
  · cases hread : WebAddress.read url with
    | error fault => simp [Except.map]
    | ok a =>
      have hallowed : a.isAllowed false = true ↔ a.scheme ∈ serviceSchemes ∧
          isLocalHost a.host = true := by
        simp only [isAllowed, Bool.or_false, Bool.and_eq_true, List.contains_iff_mem,
          Bool.not_eq_true', List.isEmpty_eq_false_iff]
        exact ⟨fun h => ⟨h.1.1, h.2⟩, fun h => ⟨⟨h.1, hhost a h.2⟩, h.2⟩⟩
      rw [isLocalHost_host_iff] at hallowed
      simp [Except.map, hallowed]

/-- The address that may be asked, as text. -/
theorem serviceAllowed_iff {url : Text} :
    serviceAllowed url false = .ok true ↔
      ∃ p : AddressParts, WebAddress.clean url = p.text ∧ p.LeadsHome := by
  rw [serviceAllowed_eq_true_iff]
  constructor
  · rintro ⟨a, hread, hscheme, hlocal⟩
    have hne : a.authority ≠ [] := AddressParts.authority_ne_nil (p := ⟨[], [], a.authority, []⟩) hlocal
    obtain ⟨p, hurl, hvalid, -, rfl, hbrackets, hlookalikes⟩ :=
      WebAddress.read_eq_ok_iff.mp ⟨hread, hscheme, hne⟩
    obtain ⟨hpaired, hplace⟩ := (AddressParts.passes_iff hvalid).mp ⟨hbrackets, hlocal⟩
    exact ⟨p, hurl, hvalid, ⟨hpaired, hlookalikes⟩, hplace⟩
  · rintro ⟨p, hurl, hvalid, hreadable, hplace⟩
    obtain ⟨hbrackets, hlocal⟩ :=
      (AddressParts.passes_iff hvalid).mpr ⟨hreadable.brackets, hplace⟩
    obtain ⟨hread, hscheme, -⟩ := WebAddress.read_eq_ok_iff.mpr
      ⟨p, hurl, hvalid, AddressParts.authority_ne_nil hlocal, rfl, hbrackets,
        hreadable.lookalikes⟩
    exact ⟨_, hread, hscheme, hlocal⟩

/-- Settings that are read have a service that may be asked. -/
theorem ServiceSettings.serviceAllowed_of_read {d : Datum} {s : ServiceSettings}
    (h : ServiceSettings.read d = .ok s) : serviceAllowed s.address s.allowRemote = .ok true := by
  rw [ServiceSettings.read] at h
  cases hentries : Validation.entriesOf ServiceSettings.schema d with
  | error problems => rw [hentries] at h; exact nomatch h
  | ok entries =>
    rw [hentries] at h
    change (ServiceSettings.ofEntries entries >>= ServiceSettings.checkAddress) = .ok s at h
    cases hfields : ServiceSettings.ofEntries entries with
    | error problems => rw [hfields] at h; exact nomatch h
    | ok read =>
      rw [hfields] at h
      change read.checkAddress = .ok s at h
      rw [ServiceSettings.checkAddress] at h
      split at h
      · next hnone =>
        obtain rfl := Except.ok.inj h
        rw [ServiceSettings.addressProblem] at hnone
        split at hnone
        · assumption
        · exact nomatch hnone
        · exact nomatch hnone
        · split at hnone <;> exact nomatch hnone
      · exact nomatch h

/-- **Only the own machine without leave.** An address may be asked just when, once leading blanks,
tabs and line ends are dropped, it is put together from a scheme of services, something up to a last
at sign, a host on the own machine with or without a port, and a rest; the closing bracket of the
host may stand before the at sign. The service of settings that are read, and allow no remote ones,
has such an address. -/
theorem serviceAllowed_iff_loopback :
    (∀ url, serviceAllowed url false = .ok true ↔
      ∃ p : AddressParts, WebAddress.clean url = p.text ∧ p.LeadsHome) ∧
    ∀ d s, ServiceSettings.read d = .ok s → s.allowRemote = false →
      ∃ p : AddressParts, WebAddress.clean s.address = p.text ∧ p.LeadsHome := by
  refine ⟨fun url => serviceAllowed_iff, fun d s hread hremote => ?_⟩
  have hallowed := ServiceSettings.serviceAllowed_of_read hread
  rw [hremote] at hallowed
  exact serviceAllowed_iff.mp hallowed

theorem serviceAllowed_iff_loopback_usual :
    ServiceSettings.read (.mapping []) = .ok {} ∧
      (∃ p : AddressParts, WebAddress.clean ({} : ServiceSettings).address = p.text ∧
        p.LeadsHome) ∧
      ∃ p : AddressParts, WebAddress.clean "\tHTTP://me@[0::1%1]:80?x" = p.text ∧ p.LeadsHome := by
  have hread : ServiceSettings.read (.mapping []) = .ok {} := rfl
  refine ⟨hread, serviceAllowed_iff_loopback.2 _ _ hread rfl, ?_⟩
  exact (serviceAllowed_iff_loopback.1 _).mp (by decide)

/-- A place may be accepted that is no host in brackets: the bracket that closes it is looked for in
all of the authority. -/
theorem serviceAllowed_bracket_open :
    ¬ ∀ url, serviceAllowed url false = .ok true →
      ∃ p : AddressParts, WebAddress.clean url = p.text ∧ p.Valid ∧ IsLoopbackPlace p.place := by
  intro h
  obtain ⟨p, hurl, hvalid, hplace⟩ := h "http://]@[::1" (by decide)
  have hopen : p.place = ('[' : CodePoint) :: "::1" := by
    rw [← hvalid.place_eq, ← hurl]
    decide
  obtain ⟨left, port, hcut, -⟩ := (AddressParts.isLoopbackPlace_bracket hopen).mp hplace
  have hnone : Text.cut? ']' ("::1" : Text) = none := by decide
  exact nomatch hnone.symm.trans hcut

end LintMend
