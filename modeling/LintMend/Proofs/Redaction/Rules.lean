/-
LintMend.Proofs.Redaction.Rules — what the standard rules look for.

The rules are local patterns, and their words keep clear of the placeholder: none starts inside of
it, none starts with a blank, and most hold no bracket, so that they cannot reach into a placeholder
either. The words of three rules end with a run of visible text, and two of these have the shape of
credentials: a name, a colon, a password, an at sign and something visible.

  `IsSecret`, `isSecret_of_standard` — what all of them have in common
  `isBracketless_or_runsOn`          — words that hold no bracket, or run on up to a blank
  `next_password_iff`                — passwords on the command line
  `Opens`, `next_credentials_iff`    — credentials at the start of a text
-/
import LintMend.Proofs.Pattern.Scanning
import LintMend.Redaction
import Mathlib.Tactic.IntervalCases

namespace LintMend

open Pattern

namespace SecretRule

/-! ## 1. All rules -/

/-- A pattern of secrets: its words are something that starts visibly, outside of placeholders. -/
structure IsSecret (p : Pattern) : Prop where
  isLocal : p.isLocal = true
  notEmpty : ¬ p.Words []
  foreign : ∀ n < Redactor.standardPlaceholder.length, ∀ t,
    ¬ p.Next (Redactor.standardPlaceholder.drop n ++ t)
  visible : ∀ c w, p.Words (c :: w) → c.isSpace = false

/-- The code points that are whitespace. -/
def blanks : List CodePoint :=
  ([0x09, 0x0A, 0x0B, 0x0C, 0x0D, 0x1C, 0x1D, 0x1E, 0x1F, 0x20, 0x85, 0xA0, 0x1680, 0x2000, 0x2001,
    0x2002, 0x2003, 0x2004, 0x2005, 0x2006, 0x2007, 0x2008, 0x2009, 0x200A, 0x2028, 0x2029, 0x202F,
    0x205F, 0x3000] : List Nat).map CodePoint.mk

theorem mem_blanks {c : CodePoint} (h : c.isSpace = true) : c ∈ blanks := by
  refine List.mem_map.mpr ⟨c.val, ?_, rfl⟩
  simp only [CodePoint.isSpace, Bool.or_eq_true, Bool.and_eq_true, decide_eq_true_eq,
    beq_iff_eq] at h
  simp only [List.mem_cons, List.not_mem_nil, or_false]
  omega

theorem isLocal_of_standard : ∀ rule ∈ standardRules, rule.pattern.isLocal = true := by
  decide

theorem mayBeEmpty_of_standard : ∀ rule ∈ standardRules, rule.pattern.mayBeEmpty = false := by
  decide

theorem starts_of_standard :
    ∀ rule ∈ standardRules, ∀ c ∈ blanks, rule.pattern.starts c = false := by
  decide +kernel

/-- No rule matches inside of a placeholder, whatever follows it. -/
theorem matchAt?_placeholder {rule : SecretRule} (hrule : rule ∈ standardRules) {n : Nat}
    (hn : n < 10) (t : Text) :
    rule.pattern.matchAt? false ⟨[], Redactor.standardPlaceholder.drop n ++ t, []⟩ = none := by
  simp only [standardRules, List.mem_cons, List.not_mem_nil, or_false] at hrule
  obtain rfl | rfl | rfl | rfl | rfl | rfl | rfl | rfl | rfl := hrule
  all_goals
    interval_cases n
    all_goals rfl

theorem isSecret_of_standard {rule : SecretRule} (hrule : rule ∈ standardRules) :
    IsSecret rule.pattern where
  isLocal := isLocal_of_standard rule hrule
  notEmpty h := by
    have hempty := mayBeEmpty_of_words h
    rw [mayBeEmpty_of_standard rule hrule] at hempty
    exact nomatch hempty
  foreign n hn t h := by
    have hsome := (matchAt?_isSome_iff (s := ⟨[], _, []⟩) (isLocal_of_standard rule hrule)).mpr h
    rw [matchAt?_placeholder hrule hn] at hsome
    exact nomatch hsome
  visible c w h := by
    refine Bool.eq_false_iff.mpr fun hspace => ?_
    have hstarts := starts_of_words h
    rw [starts_of_standard rule hrule c (mem_blanks hspace)] at hstarts
    exact nomatch hstarts

/-! ## 2. Brackets and blanks -/

/-- A rule whose words hold no bracket. -/
def IsBracketless (p : Pattern) : Prop :=
  ∀ w, p.Words w → ('[' : CodePoint) ∉ w

/-- A rule that takes all visible text at the end of its words. -/
def RunsOn (p : Pattern) : Prop :=
  ∀ w rest, p.Takes w rest → ∀ c, rest.head? = some c → c.isSpace = true

theorem isBracketless_of_avoids {p : Pattern} (h : p.avoids '[' = true) : IsBracketless p :=
  fun _ hw => not_mem_of_avoids h hw

/-- Visible text. -/
def visibleText : CharClass := ⟨[.space], true⟩

theorem holds_visibleText {c : CodePoint} : visibleText.holds c = true ↔ c.isSpace = false := by
  simp [visibleText, CharClass.holds, ClassItem.holds]

theorem runsOn_of_lastRun {p : Pattern} {k : CharClass} (hp : p.isLocal = true)
    (hlast : p.lastRun? = some k) (hk : ∀ c, c.isSpace = false → k.holds c = true) : RunsOn p := by
  intro w rest htakes c hc
  refine Bool.of_not_eq_false fun hspace => ?_
  have hstop := htakes.stop hp hlast c hc
  rw [hk c hspace] at hstop
  exact nomatch hstop

theorem runsOn_repositoryPassword : RunsOn repositoryPassword.pattern :=
  runsOn_of_lastRun (k := ⟨[.notSpace], false⟩) rfl rfl
    fun c h => by simp [CharClass.holds, ClassItem.holds, h]

theorem runsOn_databaseConnection : RunsOn databaseConnection.pattern :=
  runsOn_of_lastRun rfl rfl fun _ => holds_visibleText.mpr

theorem runsOn_addressCredentials : RunsOn addressCredentials.pattern :=
  runsOn_of_lastRun rfl rfl fun _ => holds_visibleText.mpr

/-- All but three rules avoid brackets. -/
theorem avoids_or_eq : ∀ rule ∈ standardRules, rule.pattern.avoids '[' = true ∨
    rule = repositoryPassword ∨ rule = databaseConnection ∨ rule = addressCredentials := by
  decide

/-- The words of all but three rules hold no bracket. -/
theorem isBracketless_or_eq {rule : SecretRule} (hrule : rule ∈ standardRules) :
    IsBracketless rule.pattern ∨ rule = repositoryPassword ∨ rule = databaseConnection ∨
      rule = addressCredentials :=
  (avoids_or_eq rule hrule).imp_left isBracketless_of_avoids

/-- **The words of a rule** hold no bracket, or run on up to a blank. -/
theorem isBracketless_or_runsOn {rule : SecretRule} (hrule : rule ∈ standardRules) :
    IsBracketless rule.pattern ∨ RunsOn rule.pattern := by
  obtain hbracket | rfl | rfl | rfl := isBracketless_or_eq hrule
  · exact Or.inl hbracket
  · exact Or.inr runsOn_repositoryPassword
  · exact Or.inr runsOn_databaseConnection
  · exact Or.inr runsOn_addressCredentials

/-! ## 3. Passwords on the command line -/

theorem words_oneOrMore {k : CharClass} {w : Text} :
    (oneOrMore (one k)).Words w ↔ w ≠ [] ∧ ∀ c ∈ w, k.holds c = true := by
  rw [oneOrMore, words_repeat_one, ← List.length_pos_iff]
  exact ⟨fun h => ⟨h.1, h.2.2⟩, fun h => ⟨h.1, (fun m hm => nomatch hm), h.2⟩⟩

/-- What stands before the password of a package repository. -/
def passwordHead : List Pattern :=
  [optional (choice [literalAnyCase "-P", literalAnyCase "-D"]),
    choice (["ossrh", "nexus", "artifactory", "maven", "gradle"].map fun w =>
      literalAnyCase (Text.ofString w)),
    many (anyOf [.word]), literalAnyCase "password="]

theorem passwordHead_bracketless {h : Text} (hh : (all passwordHead).Words h) :
    ('[' : CodePoint) ∉ h :=
  not_mem_of_avoids (by decide) hh

/-- **A password of a package repository is next** if something visible follows its head. -/
theorem next_password_iff {t : Text} :
    repositoryPassword.pattern.Next t ↔ ∃ h c rest, (all passwordHead).Words h ∧
      c.isSpace = false ∧ t = h ++ c :: rest := by
  have hclass : ∀ c, CharClass.holds ⟨[.notSpace], false⟩ c = true ↔ c.isSpace = false := by
    intro c
    simp [CharClass.holds, ClassItem.holds]
  have hwords : ∀ w, repositoryPassword.pattern.Words w ↔ ∃ h v, w = h ++ v ∧
      (all passwordHead).Words h ∧ (oneOrMore (anyOf [.notSpace])).Words v :=
    fun w => words_all_append passwordHead [oneOrMore (anyOf [.notSpace])]
  constructor
  · rintro ⟨w, hw, rest, rfl⟩
    obtain ⟨h, v, rfl, hh, hv⟩ := (hwords w).mp hw
    obtain ⟨hne, hall⟩ := words_oneOrMore.mp hv
    cases v with
    | nil => exact absurd rfl hne
    | cons c v =>
      exact ⟨h, c, v ++ rest, hh, (hclass c).mp (hall c List.mem_cons_self), by simp⟩
  · rintro ⟨h, c, rest, hh, hc, rfl⟩
    have hv : (oneOrMore (anyOf [.notSpace])).Words [c] :=
      words_oneOrMore.mpr ⟨List.cons_ne_nil _ _, by simpa using (hclass c).mpr hc⟩
    exact ⟨h ++ [c], (hwords _).mpr ⟨h, [c], rfl, hh, hv⟩, rest, by simp⟩

/-! ## 4. Credentials -/

/-- A name, a colon, a password, an at sign and visible text. -/
def credentials (user pass : CharClass) : List Pattern :=
  [oneOrMore (one user), literal ":", oneOrMore (one pass), literal "@", oneOrMore (one visibleText)]

/-- A text that starts with credentials. -/
def Opens (user pass : CharClass) (t : Text) : Prop :=
  ∃ u v c rest, t = u ++ (':' : CodePoint) :: (v ++ ('@' : CodePoint) :: c :: rest) ∧
    (u ≠ [] ∧ ∀ d ∈ u, user.holds d = true) ∧ (v ≠ [] ∧ ∀ d ∈ v, pass.holds d = true) ∧
    c.isSpace = false

theorem words_credentials {user pass : CharClass} {w : Text} :
    (all (credentials user pass)).Words w ↔ ∃ u v d,
      w = u ++ (':' : CodePoint) :: (v ++ ('@' : CodePoint) :: d) ∧
      (u ≠ [] ∧ ∀ c ∈ u, user.holds c = true) ∧ (v ≠ [] ∧ ∀ c ∈ v, pass.holds c = true) ∧
      (d ≠ [] ∧ ∀ c ∈ d, c.isSpace = false) := by
  simp only [credentials, words_all_cons, words_literal, words_oneOrMore, holds_visibleText]
  constructor
  · rintro ⟨u, -, rfl, hu, -, -, rfl, rfl, v, -, rfl, hv, -, -, rfl, rfl, d, -, rfl, hd, rfl⟩
    exact ⟨u, v, d, by simp [Text.ofString], hu, hv, hd⟩
  · rintro ⟨u, v, d, rfl, hu, hv, hd⟩
    exact ⟨u, _, rfl, hu, ":", _, rfl, rfl, v, _, rfl, hv, "@", _, rfl, rfl, d, [],
      (List.append_nil d).symm, hd, rfl⟩

/-- Words that start with credentials, after a head. -/
theorem next_credentials_iff {head : List Pattern} {user pass : CharClass} {t : Text} :
    (all (head ++ credentials user pass)).Next t ↔
      ∃ h rest, t = h ++ rest ∧ (all head).Words h ∧ Opens user pass rest := by
  constructor
  · rintro ⟨w, hw, rest, rfl⟩
    obtain ⟨h, body, rfl, hh, hbody⟩ := (words_all_append _ _).mp hw
    obtain ⟨u, v, d, rfl, hu, hv, hd⟩ := words_credentials.mp hbody
    cases d with
    | nil => exact absurd rfl hd.1
    | cons c d =>
      refine ⟨h, _, List.append_assoc _ _ _, hh, u, v, c, d ++ rest, by simp, hu, hv, ?_⟩
      exact hd.2 c List.mem_cons_self
  · rintro ⟨h, -, rfl, hh, u, v, c, rest, rfl, hu, hv, hc⟩
    refine ⟨h ++ (u ++ (':' : CodePoint) :: (v ++ [('@' : CodePoint), c])),
      (words_all_append _ _).mpr ⟨h, _, rfl, hh, words_credentials.mpr ⟨u, v, [c], rfl, hu, hv, ?_⟩⟩,
      rest, by simp⟩
    exact ⟨List.cons_ne_nil _ _, by simpa using hc⟩

/-- The names of databases. -/
def databaseNames : Pattern :=
  group 1 (choice [
    all [literalAnyCase "postgres", optional (literalAnyCase "ql")],
    literalAnyCase "mysql",
    all [literalAnyCase "mongodb", optional (literalAnyCase "+srv")],
    literalAnyCase "redis", literalAnyCase "amqp"])

/-- The schemes of web addresses. -/
def webSchemes : List Pattern :=
  [literalAnyCase "http", optional (literalAnyCase "s")]

/-- Everything but a colon: what a name may hold in a connection to a database. -/
def notColon : CharClass := ⟨[.range ':' ':'], true⟩

/-- Everything but an at sign: what a password may hold there. -/
def notAt : CharClass := ⟨[.range '@' '@'], true⟩

/-- What a name may hold in an address. -/
def nameInAddress : CharClass := ⟨[.range '/' '/', .space, .range ':' ':', .range '@' '@'], true⟩

/-- What a password may hold in an address. -/
def passwordInAddress : CharClass := ⟨[.range '@' '@', .space], true⟩

theorem holds_notColon {c : CodePoint} : notColon.holds c = true ↔ c ≠ ':' := by
  simp [notColon, CharClass.holds, ← holds_range_self]

theorem holds_notAt {c : CodePoint} : notAt.holds c = true ↔ c ≠ '@' := by
  simp [notAt, CharClass.holds, ← holds_range_self]

theorem holds_nameInAddress {c : CodePoint} : nameInAddress.holds c = true ↔
    c ≠ '/' ∧ c.isSpace = false ∧ c ≠ ':' ∧ c ≠ '@' := by
  have hspace : ClassItem.space.holds c = c.isSpace := rfl
  simp [nameInAddress, CharClass.holds, ← holds_range_self, hspace]

theorem holds_passwordInAddress {c : CodePoint} : passwordInAddress.holds c = true ↔
    c ≠ '@' ∧ c.isSpace = false := by
  have hspace : ClassItem.space.holds c = c.isSpace := rfl
  simp [passwordInAddress, CharClass.holds, ← holds_range_self, hspace]

theorem databaseConnection_pattern :
    databaseConnection.pattern = all ([databaseNames, literal "://"] ++ credentials notColon notAt) :=
  rfl

theorem addressCredentials_pattern :
    addressCredentials.pattern =
      all ((webSchemes ++ [literal "://"]) ++ credentials nameInAddress passwordInAddress) :=
  rfl

end SecretRule

end LintMend
