/-
LintMend.Proofs.SourceFiles.Reading — what reading a file can come to.

A path reads as a text if it leads to a file whose bytes are that text. Looking whether a file is
there comes to an answer in all cases but one: a way that leads nowhere, runs through a file or
round in links is no, and what is left is a name, or a whole path, that is too long. Reading a
file fails because it is not there, or with a failure of the file system or of the encoding.

  `read_eq_ok_iff`         — which text a path reads as
  `isThere_eq_error_iff`   — the one case in which looking for a file fails
  `readLater_error`        — the failures of a reading
-/
import LintMend.SourceFiles

namespace LintMend

/-! ## 1. The entry behind a path -/

namespace FileTree

theorem stat_eq_ok_iff {t : FileTree} {p : FilePath} {e : Entry} :
    t.stat p = .ok e ↔ ∃ l, t.lookup true p = .ok (.found l e) := by
  unfold stat
  split <;> simp_all

theorem readBytes_eq_ok_iff {t : FileTree} {p : FilePath} {bytes : Bytes} :
    t.readBytes p = .ok bytes ↔ ∃ mode, t.stat p = .ok (.file bytes mode) := by
  unfold readBytes
  split <;> simp_all

theorem isFile_eq_ok_true_iff {t : FileTree} {p : FilePath} :
    t.isFile p = .ok true ↔ ∃ bytes mode, t.stat p = .ok (.file bytes mode) := by
  unfold isFile leadsTo
  split
  · next e he => cases e <;> simp [he, Entry.isFile]
  all_goals simp_all

/-! ## 2. Ways that end in an error -/

/-- The refusals that following a path can meet. -/
def IsWayErrno (e : Errno) : Prop :=
  e = .noEntry ∨ e = .notDirectory ∨ e = .tooManyLinks ∨ e = .nameTooLong

theorem walk_error {t : FileTree} {b : Bool} {e : Errno} :
    ∀ {n : Nat} {l : Location} {names : List Text},
      t.walk b n l names = .error e → IsWayErrno e
  | n, l, [], h => by
    rw [walk.eq_def] at h
    simp only at h
    split at h
    · exact absurd h (by simp)
    · exact .inl (Except.error.inj h).symm
  | n, l, name :: rest, h => by
    rw [walk.eq_def] at h
    simp only at h
    split at h
    · split at h
      · exact walk_error h
      split at h
      · exact walk_error h
      split at h
      · exact .inr (.inr (.inr (Except.error.inj h).symm))
      split at h
      · split at h
        · exact absurd h (by simp)
        · exact .inl (Except.error.inj h).symm
      · split at h
        · exact absurd h (by simp)
        split at h
        · exact .inr (.inr (.inl (Except.error.inj h).symm))
        · exact walk_error h
      · exact walk_error h
    · exact .inr (.inl (Except.error.inj h).symm)
    · exact .inl (Except.error.inj h).symm
  termination_by n _ names => (n, names.length)

theorem pathFault?_system {text : Text} {e : Errno}
    (h : pathFault? text = some (.system e)) : e = .nameTooLong := by
  unfold pathFault? at h
  split at h
  · exact absurd h (by simp)
  split at h
  · exact absurd h (by simp)
  split at h
  · exact (PathFault.system.inj (Option.some.inj h)).symm
  · exact absurd h (by simp)

theorem pathFault?_of_lookup {t : FileTree} {b : Bool} {p : FilePath} {place : Place}
    (h : t.lookup b p = .ok place) : pathFault? p.text = none := by
  unfold lookup at h
  split at h
  · exact absurd h (by simp)
  · assumption

/-- A path that no tree can look up has a fault of its own; a refusal is met on the way. -/
theorem lookup_error {t : FileTree} {b : Bool} {p : FilePath} {fault : PathFault}
    (h : t.lookup b p = .error fault) :
    pathFault? p.text = some fault ∨ ∃ e, fault = .system e ∧ IsWayErrno e := by
  unfold lookup at h
  split at h
  · next fault' hfault =>
    obtain rfl := Except.error.inj h
    exact .inl hfault
  split at h
  · exact absurd h (by simp)
  · next e hwalk => exact .inr ⟨e, (Except.error.inj h).symm, walk_error hwalk⟩

theorem stat_error {t : FileTree} {p : FilePath} {fault : PathFault}
    (h : t.stat p = .error fault) :
    pathFault? p.text = some fault ∨ ∃ e, fault = .system e ∧ IsWayErrno e := by
  unfold stat at h
  split at h
  · exact absurd h (by simp)
  · exact .inr ⟨_, (Except.error.inj h).symm, .inl rfl⟩
  · next fault' hlookup =>
    obtain rfl := Except.error.inj h
    exact lookup_error hlookup

theorem readBytes_error {t : FileTree} {p : FilePath} {fault : PathFault}
    (h : t.readBytes p = .error fault) :
    pathFault? p.text = some fault ∨ ∃ e, fault = .system e := by
  unfold readBytes at h
  split at h
  · exact absurd h (by simp)
  · exact .inr ⟨.isDirectory, (Except.error.inj h).symm⟩
  · next fault' hstat =>
    obtain rfl := Except.error.inj h
    exact (stat_error hstat).imp_right fun ⟨e, he, _⟩ => ⟨e, he⟩

theorem leadsTo_eq_error_iff {t : FileTree} {test : Entry → Bool} {p : FilePath} {e : Errno} :
    t.leadsTo test p = .error e ↔ e = .nameTooLong ∧ t.stat p = .error (.system .nameTooLong) := by
  unfold leadsTo
  split
  · next h => simp [h]
  · next h => simp [h]
  · next h => simp [h]
  · next h => simp [h]
  · next e' hne hnd hml h =>
    have he' : e' = .nameTooLong := by
      rcases stat_error h with hfault | ⟨e'', hsame, hway⟩
      · exact pathFault?_system hfault
      obtain rfl := PathFault.system.inj hsame
      rcases hway with rfl | rfl | rfl | rfl
      · exact absurd rfl hne
      · exact absurd rfl hnd
      · exact absurd rfl hml
      · rfl
    subst he'
    simp [h, eq_comm]
  · next h => simp [h]
  · next h => simp [h]

end FileTree

/-! ## 3. Source files -/

namespace SourceFiles

open FileTree

variable {s : SourceFiles} {path : Text}

/-- Looking for a file fails only if a name on its way, or the whole path, is too long. -/
theorem isThere_eq_error_iff {t : FileTree} {e : Errno} : s.isThere t path = .error e ↔
    e = .nameTooLong ∧ t.stat (s.resolve path) = .error (.system .nameTooLong) :=
  leadsTo_eq_error_iff

/-- What a reading in two looks can come to. -/
theorem readLater_eq_ok_iff {seen now : FileTree} {text : Text} :
    s.readLater seen now path = .ok text ↔
      s.isThere seen path = .ok true ∧ ∃ bytes, now.readBytes (s.resolve path) = .ok bytes ∧
        Utf8.decode bytes = .ok text := by
  unfold readLater
  split
  · next e he => simp [he]
  · next he => simp [he]
  next he =>
  split
  · next hbytes => simp [hbytes]
  · next fault _ hbytes => simp [hbytes]
  next bytes hbytes =>
  split
  · next text' hdecode => simp [he, hbytes, hdecode]
  · next e hdecode => simp [hbytes, hdecode]

/-- A path reads as a text if it leads to a file whose bytes are that text. -/
theorem read_eq_ok_iff {t : FileTree} {text : Text} : s.read t path = .ok text ↔
    ∃ l bytes mode, t.lookup true (s.resolve path) = .ok (.found l (.file bytes mode)) ∧
      Utf8.decode bytes = .ok text := by
  rw [read, readLater_eq_ok_iff]
  constructor
  · rintro ⟨-, bytes, hbytes, hdecode⟩
    obtain ⟨mode, hstat⟩ := readBytes_eq_ok_iff.mp hbytes
    obtain ⟨l, hlookup⟩ := stat_eq_ok_iff.mp hstat
    exact ⟨l, bytes, mode, hlookup, hdecode⟩
  · rintro ⟨l, bytes, mode, hlookup, hdecode⟩
    have hstat := stat_eq_ok_iff.mpr ⟨l, hlookup⟩
    exact ⟨isFile_eq_ok_true_iff.mpr ⟨bytes, mode, hstat⟩, bytes,
      readBytes_eq_ok_iff.mpr ⟨mode, hstat⟩, hdecode⟩

theorem isThere_of_read {t : FileTree} {text : Text} (h : s.read t path = .ok text) :
    s.isThere t path = .ok true :=
  (readLater_eq_ok_iff.mp h).1

/-- A file that cannot be read is not there, or the file system or the encoding is to blame. -/
theorem readLater_error {seen now : FileTree} {failure : Failure}
    (h : s.readLater seen now path = .error failure) :
    (∃ missing, failure = .sourceMissing missing) ∨ failure.isFileFailure = true := by
  unfold readLater at h
  split at h
  · obtain rfl := Except.error.inj h
    exact .inr rfl
  · obtain rfl := Except.error.inj h
    exact .inl ⟨path, rfl⟩
  next hthere =>
  split at h
  · obtain rfl := Except.error.inj h
    exact .inl ⟨path, rfl⟩
  · next fault hne hbytes =>
    obtain rfl := Except.error.inj h
    obtain ⟨bytes, mode, hstat⟩ := isFile_eq_ok_true_iff.mp hthere
    obtain ⟨l, hlookup⟩ := stat_eq_ok_iff.mp hstat
    -- The fault is not one of the path itself: the look before has found a file by it.
    rcases readBytes_error hbytes with hfault | ⟨e, rfl⟩
    · rw [pathFault?_of_lookup hlookup] at hfault
      exact absurd hfault (by simp)
    · exact .inr rfl
  split at h
  · exact absurd h (by simp)
  · obtain rfl := Except.error.inj h
    exact .inr rfl

end SourceFiles

end LintMend
