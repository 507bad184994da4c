/-
LintMend.Proofs.Configuration.Bounds — every configuration that is loaded is within its bounds.

Where a value comes from does not matter: from the file, from a variable, or from nowhere, in which
case it is the usual one. Whatever is laid over what, a section is read from entries in one way, and
each of its fields is either left out or passes the check of its field. So the bounds are shown for
the usual values and for each check, and hold of whatever is loaded.

  `apply_eq_ok`, `field_gives`  — reading fields
  `readTemperature_bounds`, …   — the checks of single fields
  `Settings.Bounded`            — the bounds of a configuration
  `Settings.bounded_of_load`    — what is loaded is within them
-/
import LintMend.CommandLine.Invocation
import LintMend.Proofs.Address.Loopback

namespace LintMend

open Validation

/-! ## 1. Reading -/

namespace Validation

variable {α β : Type}

/-- What is read in two steps is read in both. -/
theorem bind_eq_ok {ε : Type} {x : Except ε α} {f : α → Except ε β} {b : β}
    (h : (x >>= f) = .ok b) : ∃ a, x = .ok a ∧ f a = .ok b := by
  cases x with
  | error e => exact nomatch h
  | ok a => exact ⟨a, rfl, h⟩

theorem apply_eq_ok {f : Checked (α → β)} {x : Checked α} {b : β} (h : f.apply x = .ok b) :
    ∃ g a, f = .ok g ∧ x = .ok a ∧ g a = b := by
  cases f with
  | error problems => cases x <;> exact nomatch h
  | ok g =>
    cases x with
    | error problems => exact nomatch h
    | ok a => exact ⟨g, a, rfl, rfl, Except.ok.inj h⟩

theorem withProblems_eq_ok {problems : List Problem} {x : Checked α} {a : α}
    (h : x.withProblems problems = .ok a) : x = .ok a := by
  cases x with
  | error first => exact nomatch h
  | ok b =>
    change (if problems.isEmpty then .ok b else .error problems) = Except.ok a at h
    split at h
    · exact h
    · exact nomatch h

variable {entries : List (Datum × Datum)} {name : Text} {absent a : α} {P : α → Prop}

/-- **What holds of the usual value and of all that is read, holds of a field.** -/
theorem field_gives {read : Datum → Checked α} (habsent : P absent)
    (hread : ∀ d a, read d = .ok a → P a) (h : field entries name absent read = .ok a) : P a := by
  unfold field at h
  split at h
  next d hfound =>
    cases hd : read d with
    | error problems =>
      rw [hd] at h
      exact nomatch h
    | ok b =>
      rw [hd] at h
      obtain rfl := Except.ok.inj h
      exact hread d b hd
  next =>
    obtain rfl := Except.ok.inj h
    exact habsent

theorem plainField_gives {read : Datum → Reading α} (habsent : P absent)
    (hread : ∀ d a, read d = .ok a → P a) (h : plainField entries name absent read = .ok a) :
    P a := by
  refine field_gives habsent ?_ h
  intro d b hd
  cases hvalue : read d with
  | error complaint =>
    rw [hvalue] at hd
    exact nomatch hd
  | ok c =>
    rw [hvalue] at hd
    obtain rfl := Except.ok.inj hd
    exact hread d c hvalue

/-! ## 2. Bounds of numbers -/

/-- A value that is let through is the one that came, and passes the test. -/
theorem ite_eq_ok_iff {test : Prop} [Decidable test] {complaint : Complaint} {b : α} :
    (if test then .ok a else .error complaint : Reading α) = .ok b ↔ a = b ∧ test := by
  split
  case isTrue htest => simp [htest]
  case isFalse htest => simp [htest]

variable {x y bound : Float} {m n least most : Int} {shown : Text}

theorem atMost_eq_ok_iff : atMost bound shown x = .ok y ↔ x = y ∧ x ≤ bound :=
  ite_eq_ok_iff

theorem atLeast_eq_ok_iff : atLeast bound shown x = .ok y ↔ x = y ∧ bound ≤ x :=
  ite_eq_ok_iff

theorem above_eq_ok_iff : above bound shown x = .ok y ↔ x = y ∧ bound < x :=
  ite_eq_ok_iff

theorem intAtMost_eq_ok_iff : intAtMost most n = .ok m ↔ n = m ∧ n ≤ most :=
  ite_eq_ok_iff

theorem intAtLeast_eq_ok_iff : intAtLeast least n = .ok m ↔ n = m ∧ least ≤ n :=
  ite_eq_ok_iff

end Validation

/-! ## 3. Fields -/

theorem ServiceSettings.readTemperature_bounds {d : Datum} {x : Float}
    (h : ServiceSettings.readTemperature d = .ok x) : 0.0 ≤ x ∧ x ≤ 2.0 := by
  obtain ⟨y, -, h⟩ := bind_eq_ok h
  obtain ⟨z, hmost, hleast⟩ := bind_eq_ok h
  obtain ⟨rfl, hhigh⟩ := atMost_eq_ok_iff.mp hmost
  obtain ⟨rfl, hlow⟩ := atLeast_eq_ok_iff.mp hleast
  exact ⟨hlow, hhigh⟩

theorem ServiceSettings.readTimeout_bounds {d : Datum} {x : Float}
    (h : ServiceSettings.readTimeout d = .ok x) : 0.0 < x := by
  obtain ⟨y, -, habove⟩ := bind_eq_ok h
  obtain ⟨rfl, hlow⟩ := above_eq_ok_iff.mp habove
  exact hlow

/-- A command starts with a word that is not blank. -/
def StartsWithWord (command : List Text) : Prop :=
  ∃ first rest, command = first :: rest ∧ first.isBlank = false

theorem BuildSettings.readCommand_startsWithWord {d : Datum} {command : List Text}
    (h : BuildSettings.readCommand d = .ok command) : StartsWithWord command := by
  obtain ⟨words, -, h⟩ := bind_eq_ok h
  split at h
  next first rest =>
    split at h
    next hword =>
      obtain rfl := Except.ok.inj h
      exact ⟨first, rest, rfl, by simpa using hword⟩
    next => exact nomatch h
  next => exact nomatch h

/-- A file extension is a point and something after it. -/
def IsExtension (t : Text) : Prop :=
  ∃ c rest, t = ⟨0x2E⟩ :: c :: rest

theorem ExtractionSettings.readExtension_isExtension {d : Datum} {t : Text}
    (h : ExtractionSettings.readExtension d = .ok t) : IsExtension t := by
  obtain ⟨u, -, h⟩ := bind_eq_ok h
  split at h
  next hshape =>
    obtain rfl := Except.ok.inj h
    obtain ⟨hpoint, hlength⟩ := Bool.and_eq_true_iff.mp hshape
    obtain ⟨rest, rfl⟩ := List.isPrefixOf_iff_prefix.mp hpoint
    cases rest with
    | nil => exact absurd (of_decide_eq_true hlength) (by decide)
    | cons c rest => exact ⟨c, rest, rfl⟩
  next => exact nomatch h

theorem readNonEmptyText_ne_nil {d : Datum} {t : Text} (h : readNonEmptyText d = .ok t) :
    t ≠ [] := by
  unfold readNonEmptyText at h
  split at h
  · exact nomatch h
  · split at h
    · exact nomatch h
    · split at h
      · exact nomatch h
      · next hsome =>
        obtain rfl := Except.ok.inj h
        rintro rfl
        exact hsome rfl

/-! ## 4. Sections -/

namespace ServiceSettings

/-- The numbers of the service's section are within their bounds. -/
structure Bounded (s : ServiceSettings) : Prop where
  temperature : 0.0 ≤ s.temperature ∧ s.temperature ≤ 2.0
  timeout : 0.0 < s.timeout
  healthTimeout : 0.0 < s.healthTimeout
  address : serviceAllowed s.address s.allowRemote = .ok true

/-- The usual values are. -/
theorem bounded_usual : ({} : ServiceSettings).Bounded where
  temperature := by decide +kernel
  timeout := by decide +kernel
  healthTimeout := by decide +kernel
  address := by decide

theorem numbers_of_ofEntries {entries : List (Datum × Datum)} {s : ServiceSettings}
    (h : ofEntries entries = .ok s) :
    (0.0 ≤ s.temperature ∧ s.temperature ≤ 2.0) ∧ 0.0 < s.timeout ∧ 0.0 < s.healthTimeout := by
  obtain ⟨_, _, h₁, -, rfl⟩ := apply_eq_ok h
  obtain ⟨_, _, h₂, hhealth, rfl⟩ := apply_eq_ok h₁
  obtain ⟨_, _, h₃, htimeout, rfl⟩ := apply_eq_ok h₂
  obtain ⟨_, _, h₄, htemperature, rfl⟩ := apply_eq_ok h₃
  obtain ⟨_, _, h₅, -, rfl⟩ := apply_eq_ok h₄
  obtain ⟨_, _, h₆, -, rfl⟩ := apply_eq_ok h₅
  obtain rfl := Except.ok.inj h₆
  refine ⟨?_, ?_, ?_⟩
  · exact plainField_gives (P := fun x => 0.0 ≤ x ∧ x ≤ 2.0) bounded_usual.temperature
      (fun _ _ => readTemperature_bounds) htemperature
  · exact plainField_gives bounded_usual.timeout (fun _ _ => readTimeout_bounds) htimeout
  · exact plainField_gives bounded_usual.healthTimeout (fun _ _ => readTimeout_bounds) hhealth

theorem bounded_of_read {d : Datum} {s : ServiceSettings} (h : read d = .ok s) : s.Bounded := by
  have haddress := serviceAllowed_of_read h
  obtain ⟨entries, -, h⟩ := bind_eq_ok h
  obtain ⟨fields, hfields, h⟩ := bind_eq_ok h
  have hsame : fields = s := by
    unfold checkAddress at h
    split at h
    · exact Except.ok.inj h
    · exact nomatch h
  subst hsame
  obtain ⟨htemperature, htimeout, hhealth⟩ := numbers_of_ofEntries hfields
  exact ⟨htemperature, htimeout, hhealth, haddress⟩

end ServiceSettings

namespace BuildSettings

/-- A build has a command, and ten seconds at least. -/
structure Bounded (s : BuildSettings) : Prop where
  command : StartsWithWord s.command
  timeout : 10 ≤ s.timeout

theorem bounded_usual : ({} : BuildSettings).Bounded where
  command := ⟨"./gradlew", _, rfl, by decide⟩
  timeout := by decide

theorem bounded_of_read {d : Datum} {s : BuildSettings} (h : read d = .ok s) : s.Bounded := by
  obtain ⟨entries, -, h⟩ := bind_eq_ok h
  obtain ⟨_, _, h₁, htimeout, rfl⟩ := apply_eq_ok h
  obtain ⟨_, _, h₂, -, rfl⟩ := apply_eq_ok h₁
  obtain ⟨_, _, h₃, hcommand, rfl⟩ := apply_eq_ok h₂
  obtain rfl := Except.ok.inj h₃
  constructor
  · exact field_gives bounded_usual.command (fun _ _ => readCommand_startsWithWord) hcommand
  · refine plainField_gives (P := (10 ≤ ·)) bounded_usual.timeout ?_ htimeout
    intro d n hn
    obtain ⟨m, -, hleast⟩ := bind_eq_ok hn
    obtain ⟨rfl, hm⟩ := intAtLeast_eq_ok_iff.mp hleast
    exact hm

end BuildSettings

namespace ExtractionSettings

/-- Something marks a diagnostic, and its path ends with an extension. -/
structure Bounded (s : ExtractionSettings) : Prop where
  marker : s.marker ≠ []
  fileExtension : IsExtension s.fileExtension

theorem bounded_usual : ({} : ExtractionSettings).Bounded where
  marker := by decide
  fileExtension := ⟨'j', "ava", rfl⟩

theorem bounded_of_read {d : Datum} {s : ExtractionSettings} (h : read d = .ok s) : s.Bounded := by
  obtain ⟨entries, -, h⟩ := bind_eq_ok h
  obtain ⟨_, _, h₁, hextension, rfl⟩ := apply_eq_ok h
  obtain ⟨_, _, h₂, hmarker, rfl⟩ := apply_eq_ok h₁
  obtain rfl := Except.ok.inj h₂
  constructor
  · exact plainField_gives (P := (· ≠ [])) bounded_usual.marker
      (fun _ _ => readNonEmptyText_ne_nil) hmarker
  · exact plainField_gives bounded_usual.fileExtension
      (fun _ _ => readExtension_isExtension) hextension

end ExtractionSettings

namespace FixingSettings

/-- At most a hundred lines around a finding are shown. -/
structure Bounded (s : FixingSettings) : Prop where
  contextLines : 0 ≤ s.contextLines ∧ s.contextLines ≤ 100

theorem bounded_usual : ({} : FixingSettings).Bounded where
  contextLines := by decide

theorem bounded_of_read {d : Datum} {s : FixingSettings} (h : read d = .ok s) : s.Bounded := by
  obtain ⟨entries, -, h⟩ := bind_eq_ok h
  obtain ⟨_, _, h₁, hlines, rfl⟩ := apply_eq_ok h
  obtain ⟨_, _, h₂, -, rfl⟩ := apply_eq_ok h₁
  obtain rfl := Except.ok.inj h₂
  constructor
  refine plainField_gives (P := fun n => 0 ≤ n ∧ n ≤ 100) bounded_usual.contextLines ?_ hlines
  intro d n hn
  obtain ⟨m, -, hn⟩ := bind_eq_ok hn
  obtain ⟨k, hmost, hleast⟩ := bind_eq_ok hn
  obtain ⟨rfl, hhigh⟩ := intAtMost_eq_ok_iff.mp hmost
  obtain ⟨rfl, hlow⟩ := intAtLeast_eq_ok_iff.mp hleast
  exact ⟨hlow, hhigh⟩

end FixingSettings

/-! ## 5. The whole configuration -/

namespace Settings

/-- A configuration within its bounds. -/
structure Bounded (s : Settings) : Prop where
  service : s.service.Bounded
  build : s.build.Bounded
  extraction : s.extraction.Bounded
  fixing : s.fixing.Bounded

theorem bounded_of_ofEntries {entries : List (Datum × Datum)} {s : Settings}
    (h : ofEntries entries = .ok s) : s.Bounded := by
  obtain ⟨_, _, h₁, -, rfl⟩ := apply_eq_ok (withProblems_eq_ok h)
  obtain ⟨_, _, h₂, hfixing, rfl⟩ := apply_eq_ok h₁
  obtain ⟨_, _, h₃, hextraction, rfl⟩ := apply_eq_ok h₂
  obtain ⟨_, _, h₄, hbuild, rfl⟩ := apply_eq_ok h₃
  obtain ⟨_, _, h₅, hservice, rfl⟩ := apply_eq_ok h₄
  obtain rfl := Except.ok.inj h₅
  constructor
  · exact field_gives ServiceSettings.bounded_usual
      (fun _ _ => ServiceSettings.bounded_of_read) hservice
  · exact field_gives BuildSettings.bounded_usual (fun _ _ => BuildSettings.bounded_of_read) hbuild
  · exact field_gives ExtractionSettings.bounded_usual
      (fun _ _ => ExtractionSettings.bounded_of_read) hextraction
  · exact field_gives FixingSettings.bounded_usual
      (fun _ _ => FixingSettings.bounded_of_read) hfixing

theorem bounded_of_ofEntries? {env : Environment} {entries : List (Datum × Datum)} {s : Settings}
    (h : ofEntries? env entries = .ok s) : s.Bounded := by
  unfold ofEntries? at h
  split at h
  · exact nomatch h
  · next below _ =>
    cases hread : ofEntries (Datum.mergeEntries below entries) with
    | error problems =>
      rw [hread] at h
      exact nomatch h
    | ok read =>
      rw [hread] at h
      obtain rfl := Except.ok.inj h
      exact bounded_of_ofEntries hread

theorem bounded_of_ofData {env : Environment} {d : Datum} {s : Settings}
    (h : ofData env d = .ok s) : s.Bounded := by
  unfold ofData at h
  split at h
  · split at h
    · split at h
      · exact nomatch h
      · exact bounded_of_ofEntries? h
    · exact nomatch h
  · exact nomatch h

theorem bounded_of_ofText {env : Environment} {path : FilePath} {t : Text} {s : Settings}
    (h : ofText env path t = .ok s) : s.Bounded := by
  unfold ofText at h
  split at h
  · cases h
  · split at h
    · cases h
    · split at h
      · exact bounded_of_ofData h
      · cases h

/-- **What is loaded is within its bounds**, from whatever file and environment. -/
theorem bounded_of_load {tree : FileTree} {env : Environment} {source : Option FilePath}
    {s : Settings} (h : load tree env source = .ok s) : s.Bounded := by
  cases source with
  | none => exact bounded_of_ofEntries? h
  | some path =>
    rw [load] at h
    split at h
    · cases h
    · exact bounded_of_ofText h

/-- The command line changes nothing that has a bound. -/
theorem Bounded.within {s : Settings} (h : s.Bounded) (directory : Option FilePath) :
    (s.within directory).Bounded := by
  cases directory with
  | none => exact h
  | some d => exact ⟨h.service, ⟨h.build.command, h.build.timeout⟩, h.extraction, h.fixing⟩

end Settings

end LintMend
