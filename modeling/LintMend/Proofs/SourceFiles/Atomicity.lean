/-
LintMend.Proofs.SourceFiles.Atomicity — an atomic write is all or nothing.

Whichever of its steps fails, a write that fails leaves the very tree that it found, and a write
that succeeds changes the one entry to which the path points: a file stands there, with the bytes
of the text and the permission bits that the path showed before. On the way the path shows what it
showed.

  `shown`, `shownMode`        — what a path shows, and the permission bits that a new file takes
  `shown_made`                — a temporary file does not change what a path shows
  `points_set_iff`            — when a path still points to the file that was set
  `writeTrace_all_or_nothing` — the whole write
  `Written.read`, `write_hides_file` — when it is read back, and when not

A path need not lead to the file that was set under it. The entry in whose place the file is put may
be a link to a directory through which the path itself goes, and then its names go on after a file.
The exact condition is that the directory of the path can be reached without that entry.
-/
import Mathlib
import LintMend.Proofs.SourceFiles.Separation

namespace LintMend

/-! ## 1. What a path shows -/

namespace FileTree

variable {t : FileTree} {p : FilePath} {e : Entry} {temp d : Location} {last : Text}
  {bytes : Bytes} {mode : Nat}

/-- What a path shows: the entry to which it leads, links followed, if there is one. -/
def shown (t : FileTree) (p : FilePath) : Option Entry :=
  (t.stat p).toOption

/-- The permission bits that a path shows; where it shows nothing, those of a private file. -/
def shownMode (t : FileTree) (p : FilePath) : Nat :=
  ((t.shown p).map Entry.mode).getD privateMode

theorem shown_eq_some_iff : t.shown p = some e ↔ ∃ l, t.lookup true p = .ok (.found l e) := by
  rw [shown, ← stat_eq_ok_iff]
  cases t.stat p <;> simp [Except.toOption]

/-- Ways that do not end at a temporary file were there before it was made. -/
theorem Leads.of_made {n m : Nat} {l k : Location} {xs : List Text} (habsent : t.at? temp = none)
    (h : Leads (t.set temp (.file bytes mode)) n l xs m k) (hk : k ≠ temp) :
    Leads t n l xs m k := by
  have hne := ne_nil_of_absent habsent
  have hplain : ¬ (t.set temp (.file bytes mode)).HasDirectory temp :=
    not_directory_of_file (by rw [at?_set _ _ _ _ hne, if_pos rfl])
  -- the name of the temporary file is the only one that leads elsewhere, and it is the last one
  induction h with
  | here n l => exact .here n l
  | @direct n m l l' k name rest hmove hrest ih =>
    obtain ⟨-, hold | ⟨-, -, hnew⟩⟩ := move?_of_set hne hmove
    · exact .direct hold (ih hk)
    · obtain rfl := Move.direct.inj hnew
      cases rest with
      | nil =>
        cases hrest
        exact absurd rfl hk
      | cons next rest => exact absurd (hrest.directory (by simp)) hplain
  | along hmove _ ih =>
    obtain ⟨-, hold | ⟨-, -, hnew⟩⟩ := move?_of_set hne hmove
    · exact .along hold (ih hk)
    · exact absurd hnew (by simp)

/-- **A temporary file does not change what a path shows**, unless the path showed nothing and leads
to the temporary file itself: a link without an end has the name that the file was given. -/
theorem shown_made (habsent : t.at? temp = none) (bytes : Bytes) (mode : Nat) (p : FilePath) :
    (t.set temp (.file bytes mode)).shown p = t.shown p ∨
      t.shown p = none ∧
        (t.set temp (.file bytes mode)).lookup true p = .ok (.found temp (.file bytes mode)) := by
  cases hold : t.shown p with
  | some e =>
    obtain ⟨l, hl⟩ := shown_eq_some_iff.mp hold
    exact .inl (shown_eq_some_iff.mpr ⟨l, lookup_of_made habsent hl⟩)
  | none =>
    cases hnew : (t.set temp (.file bytes mode)).shown p with
    | none => exact .inl rfl
    | some e =>
      obtain ⟨l, hl⟩ := shown_eq_some_iff.mp hnew
      obtain ⟨hfault, hwalk⟩ := lookup_eq_ok_iff.mp hl
      obtain ⟨⟨m, hway⟩, hthere⟩ := walk_true_eq_found_iff.mp hwalk
      rw [at?_set _ _ _ _ (ne_nil_of_absent habsent)] at hthere
      split at hthere
      · next hsame =>
        obtain rfl := Option.some.inj hthere
        exact .inr ⟨rfl, hsame ▸ hl⟩
      · next hother =>
        have hfound : t.lookup true p = .ok (.found l e) :=
          lookup_eq_ok_iff.mpr ⟨hfault, walk_true_eq_found_iff.mpr
            ⟨⟨m, hway.of_made habsent hother⟩, hthere⟩⟩
        exact absurd (hold.symm.trans (shown_eq_some_iff.mpr ⟨l, hfound⟩)) (by simp)

/-! ## 2. Paths to a file that was set -/

/-- A path points to the file that was set at a name if it points there without the file. -/
theorem points_set_iff {d' : Location} {last' : Text} (hlast : IsEntryName last) :
    (t.set (d ++ [last]) (.file bytes mode)).Points p d' last' ↔
      (t.erase (d ++ [last])).Points p d' last' := by
  have hne : d ++ [last] ≠ [] := by simp
  have hthere : (t.set (d ++ [last]) (.file bytes mode)).at? (d ++ [last]) =
      some (.file bytes mode) := by
    rw [at?_set _ _ _ _ hne, if_pos rfl]
  constructor
  · intro h
    refine h.of_replaced rfl (fun l hl e he => ⟨e, ?_, .refl e⟩) (deadEnd_of_file hlast hthere)
    rw [at?_set _ _ _ _ hne, if_neg hl] at he
    rw [at?_erase _ _ _ hne, if_neg hl, he]
  · intro h
    refine h.of_kept rfl fun l e he => ⟨e, ?_, .refl e⟩
    rw [at?_erase _ _ _ hne] at he
    split at he
    · exact absurd he (by simp)
    · next hl => rw [at?_set _ _ _ _ hne, if_neg hl, he]

/-- What can be reached without an entry can be reached with it. -/
theorem Points.of_erase {l d' : Location} {last' : Text} (hl : l ≠ [])
    (h : (t.erase l).Points p d' last') : t.Points p d' last' := by
  refine h.of_kept rfl fun k e he => ⟨e, ?_, .refl e⟩
  rw [at?_erase _ _ _ hl] at he
  split at he
  · exact absurd he (by simp)
  · exact he

/-- A path leads to the file that was set where it points if and only if it points there without
what stood there. -/
theorem lookup_set_iff (hfault : pathFault? p.text = none) (hpoints : t.Points p d last) :
    (∃ l old m, (t.set (d ++ [last]) (.file bytes mode)).lookup true p =
        .ok (.found l (.file old m))) ↔
      (t.erase (d ++ [last])).Points p d last := by
  have hne : d ++ [last] ≠ [] := by simp
  have hproper : hasProperName p = true := by
    obtain ⟨hname, -, init, m, hnames, -⟩ := hpoints
    simp [hasProperName, hnames, hname.1]
  constructor
  · rintro ⟨l, old, m, hfound⟩
    obtain ⟨d', last', -, hpoints', -⟩ := points_of_found hfound hproper
    have herased := (points_set_iff hpoints.name).mp hpoints'
    obtain ⟨rfl, rfl⟩ := hpoints.unique (herased.of_erase hne)
    exact herased
  · intro herased
    have hpoints' : (t.set (d ++ [last]) (.file bytes mode)).Points p d last :=
      (points_set_iff hpoints.name).mpr herased
    exact ⟨_, _, _, hpoints'.lookup_file hfault (by rw [at?_set _ _ _ _ hne, if_pos rfl])⟩

/-- Without what stands at a dead end a path points where it pointed. -/
theorem Points.erase_of_deadEnd {d' : Location} {last' : Text} (h : t.Points p d last)
    (hdead : t.DeadEnd d' last') : (t.erase (d' ++ [last'])).Points p d last := by
  refine h.of_replaced rfl (fun l hl e he => ⟨e, ?_, .refl e⟩) hdead
  rw [at?_erase _ _ _ (by simp), if_neg hl, he]

end FileTree

/-! ## 3. Atomic writes -/

namespace SourceFiles

open FileTree

variable {s : SourceFiles} {t t' : FileTree} {path content : Text} {p : FilePath}

/-- The permission bits that are found for a new file are those that the path shows. -/
theorem modeFor_ok {mode : Option Nat} (h : modeFor t p = .ok mode) :
    mode = (t.shown p).map Entry.mode := by
  unfold modeFor at h
  split at h
  · exact absurd h (by simp)
  · next habsent =>
    obtain rfl := Except.ok.inj h
    have hstat : ∀ e, t.stat p ≠ .ok e := by
      intro e he
      simp [isPresent, leadsTo, he] at habsent
    cases hshown : t.stat p with
    | ok e => exact absurd hshown (hstat e)
    | error fault => simp [shown, hshown, Except.toOption]
  · split at h
    · exact absurd h (by simp)
    · next e he =>
      obtain rfl := Except.ok.inj h
      simp [shown, he, Except.toOption]

/-- They are those that the path showed before the temporary file was made. -/
theorem modeFor_made {temp : Location} {bytes : Bytes} {mode : Option Nat}
    (habsent : t.at? temp = none)
    (h : modeFor (t.set temp (.file bytes privateMode)) p = .ok mode) :
    mode.getD privateMode = t.shownMode p := by
  rw [modeFor_ok h]
  rcases shown_made habsent bytes privateMode p with hsame | ⟨hnone, hfound⟩
  · rw [hsame, shownMode]
  · have hnew := shown_eq_some_iff.mpr ⟨temp, hfound⟩
    simp [shownMode, hnone, hnew, Entry.mode]

/-- What a write that succeeds leaves: a file where the path points, with the bytes of the text and
the permission bits that the path showed, and all else as it was. -/
structure Written (s : SourceFiles) (t : FileTree) (path content : Text) (bytes : Bytes)
    (d : Location) (last : Text) (t' : FileTree) : Prop where
  encoded : Utf8.encode content = .ok bytes
  points : t.Points (s.resolve path) d last
  final : t' = t.set (d ++ [last]) (.file bytes (t.shownMode (s.resolve path)))
  /-- The path leads to the file if it points there without what stood there before, -/
  reached : (t.erase (d ++ [last])).Points (s.resolve path) d last →
    t'.shown (s.resolve path) = some (.file bytes (t.shownMode (s.resolve path))) ∧
      s.read t' path = .ok content
  /-- and otherwise there is no file to be read under it. -/
  hidden : ¬ (t.erase (d ++ [last])).Points (s.resolve path) d last →
    ∀ text, s.read t' path ≠ .ok text

theorem written_of_points {bytes : Bytes} {d : Location} {last : Text}
    (hencode : Utf8.encode content = .ok bytes) (hfault : pathFault? (s.resolve path).text = none)
    (hpoints : t.Points (s.resolve path) d last) :
    s.Written t path content bytes d last
      (t.set (d ++ [last]) (.file bytes (t.shownMode (s.resolve path)))) where
  encoded := hencode
  points := hpoints
  final := rfl
  reached herased := by
    have hthere := at?_set t (d ++ [last]) (d ++ [last])
      (.file bytes (t.shownMode (s.resolve path))) (by simp)
    rw [if_pos rfl] at hthere
    have hfound := ((points_set_iff hpoints.name).mpr herased).lookup_file hfault hthere
    exact ⟨shown_eq_some_iff.mpr ⟨_, hfound⟩,
      read_eq_ok_iff.mpr ⟨_, _, _, hfound, Utf8.decode_encode hencode⟩⟩
  hidden hlost text hread := by
    obtain ⟨l, old, mode, hfound, -⟩ := read_eq_ok_iff.mp hread
    exact hlost ((lookup_set_iff hfault hpoints).mp ⟨l, old, mode, hfound⟩)

/-- On the way of a write a path shows what it showed, or it is a link without an end to the name
that the temporary file is given. -/
def ShowsOld (t : FileTree) (p : FilePath) (u : FileTree) : Prop :=
  u.shown p = t.shown p ∨ t.shown p = none ∧ ∃ temp made bytes mode,
    t.createTemp p = .ok (temp, made) ∧ u.lookup true p = .ok (.found temp (.file bytes mode))

theorem Midway.showsOld {temp : Location} {made u : FileTree}
    (hmade : t.createTemp p = .ok (temp, made)) (h : Midway t temp u) : ShowsOld t p u := by
  obtain rfl | ⟨bytes, mode, rfl⟩ := h
  · exact .inl rfl
  obtain ⟨habsent, -⟩ := absent_of_createTemp hmade
  rcases shown_made habsent bytes mode p with hsame | ⟨hnone, hfound⟩
  · exact .inl hsame
  · exact .inr ⟨hnone, temp, made, bytes, mode, hmade, hfound⟩

/-- A write that is all or nothing: what it leaves, and what is seen on its way. -/
structure AllOrNothing (s : SourceFiles) (t : FileTree) (path content : Text)
    (trace : WriteTrace) : Prop where
  nothing : ∀ failure, trace.result = .error failure → trace.final = t
  all : trace.result = .ok () → ∃ bytes d last, s.Written t path content bytes d last trace.final
  way : ∀ u ∈ trace.passed, ShowsOld t (s.resolve path) u

theorem Course.allOrNothing {bytes : Bytes} {trace : WriteTrace}
    (h : Course t (s.resolve path) bytes trace) (hencode : Utf8.encode content = .ok bytes) :
    s.AllOrNothing t path content trace := by
  cases h with
  | unmade => exact ⟨fun _ _ => rfl, fun hok => absurd hok (by simp), by simp⟩
  | abandoned _ _ hmade hpassed =>
    exact ⟨fun _ _ => rfl, fun hok => absurd hok (by simp), fun u hu =>
      (hpassed u hu).showsOld hmade⟩
  | replaced hmade hpassed hmode hfault hpoints =>
    refine ⟨fun _ herror => absurd herror (by simp), fun _ => ?_, fun u hu =>
      (hpassed u hu).showsOld hmade⟩
    rw [modeFor_made (absent_of_createTemp hmade).1 hmode]
    exact ⟨_, _, _, written_of_points hencode hfault hpoints⟩

/-- **An atomic write is all or nothing**, whichever of its steps fails. -/
theorem writeTrace_all_or_nothing (hatomic : s.atomic = true) (fault : WriteStep → Option Errno)
    (t : FileTree) (path content : Text) :
    s.AllOrNothing t path content (s.writeTrace fault t path content) := by
  unfold writeTrace
  split
  · exact ⟨fun _ _ => rfl, fun hok => absurd hok (by simp), by simp⟩
  · next bytes hencode =>
    rw [if_pos hatomic]
    exact (atomicWrite_course fault t (s.resolve path) bytes).allOrNothing hencode

/-- A directory, and a link to it. -/
def linkedDirectory : FileTree :=
  ⟨[], [(["D"], .directory directoryMode), (["L"], .link "D")]⟩

set_option maxRecDepth 8000 in
theorem writeTrace_all_or_nothing_sample :
    (writeTrace {} (fun _ => none) linkedDirectory "D/A.java" "class A").result = .ok () ∧
      AllOrNothing {} linkedDirectory "D/A.java" "class A"
        (writeTrace {} (fun _ => none) linkedDirectory "D/A.java" "class A") :=
  ⟨by cbv, writeTrace_all_or_nothing rfl _ _ _ _⟩

/-- What was written can be read back if what stood there leads to no directory, -/
theorem Written.read {bytes : Bytes} {d : Location} {last : Text}
    (h : s.Written t path content bytes d last t') (hdead : t.DeadEnd d last) :
    s.read t' path = .ok content :=
  (h.reached (h.points.erase_of_deadEnd hdead)).2

set_option maxRecDepth 8000 in
/-- but not always: the file can stand in place of a link by which the path itself went. -/
theorem write_hides_file : ¬ ∀ (s : SourceFiles) (t : FileTree) (path content : Text),
    s.atomic = true → (s.write t path content).2.2 = .ok () →
      s.read (s.write t path content).1 path = .ok content := by
  intro h
  have hread := h {} linkedDirectory "L/../L" "x" rfl (by cbv)
  have hlost : SourceFiles.read {} (SourceFiles.write {} linkedDirectory "L/../L" "x").1 "L/../L" =
      .error (.sourceMissing "L/../L") := by cbv
  exact absurd (hread.symm.trans hlost) (by simp)

end SourceFiles

end LintMend
