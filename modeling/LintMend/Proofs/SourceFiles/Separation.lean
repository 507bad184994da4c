/-
LintMend.Proofs.SourceFiles.Separation — what a write does, and that writes to files apart commute.

A write to a path that leads to a file has one of five ends, and which of them it is can be told
from the tree before it, without the temporary file. That makes two writes comparable: a file that
was set under a path apart from the other one changes neither the end nor the place of the write.

  `WriteEnd`, `writeEnd_of_found`, `WriteEnd.eq` — the ends of a write, and that they are told so
  `Target`             — where a write to a path sets a file
  `Touched`            — what writes under one path can do to a tree
  `Target.read_set`    — a path apart from the written one reads as before
  `Target.write_set`   — and is written as before
  `set_comm`           — in the end it does not matter which write came first

The one thing that can differ is the reason why a temporary file could not be made. It is made in
the directory that the path names with two points taken as the way back, and the names of that
directory may run through the other file.
-/
import LintMend.Proofs.FileTree.Apart
import LintMend.Proofs.FileTree.Temporary
import LintMend.Proofs.SourceFiles.Writing

namespace LintMend

/-! ## 1. Entries -/

namespace FileTree

variable {t : FileTree} {p : FilePath} {l : Location} {bytes : Bytes} {mode : Nat}

theorem place_comm {l k : Location} (hlk : l ≠ k) {e e' old old' : Entry} :
    ∀ {es : List (Location × Entry)}, find l es = some old → find k es = some old' →
      place k e' (place l e es) = place l e (place k e' es)
  | [], hl, _ => absurd hl (by simp [find])
  | (j, entry) :: rest, hl, hk => by
    by_cases hjl : j = l
    · subst hjl
      simp [place, hlk]
    · by_cases hjk : j = k
      · subst hjk
        simp [place, hjl]
      · rw [find, if_neg hjl] at hl
        rw [find, if_neg hjk] at hk
        simp [place, hjl, hjk, place_comm hlk hl hk]

/-- Entries that are there can be replaced in any order. -/
theorem set_comm {l k : Location} (hlk : l ≠ k) {old old' : Entry} (hl : t.at? l = some old)
    (hk : t.at? k = some old') (hlne : l ≠ []) (hkne : k ≠ []) (e e' : Entry) :
    (t.set l e).set k e' = (t.set k e').set l e := by
  rw [at?, if_neg hlne] at hl
  rw [at?, if_neg hkne] at hk
  simp only [set, place_comm hlk hl hk]

/-! ## 2. A path to a file -/

/-- A path points to one name. -/
theorem Points.unique {d d' : Location} {last last' : Text} (h : t.Points p d last)
    (h' : t.Points p d' last') : d = d' ∧ last = last' := by
  obtain ⟨-, -, init, m, hnames, hway⟩ := h
  obtain ⟨-, -, init', m', hnames', hway'⟩ := h'
  obtain ⟨rfl, hlast⟩ := List.append_inj' (hnames.symm.trans hnames') rfl
  exact ⟨hway.unique hway', (List.cons.inj hlast).1⟩

/-- A path to a file that ends with a name proper points to a file or a link. -/
theorem points_of_found (h : t.lookup true p = .ok (.found l (.file bytes mode)))
    (hproper : hasProperName p = true) : ∃ d last e, t.Points p d last ∧
      t.at? (d ++ [last]) = some e ∧ ¬ t.HasDirectory (d ++ [last]) ∧
      t.lookup false p = .ok (.found (d ++ [last]) e) := by
  obtain ⟨hfault, hwalk⟩ := lookup_eq_ok_iff.mp h
  obtain ⟨⟨m, hway⟩, hthere⟩ := walk_true_eq_found_iff.mp hwalk
  have hplain := not_directory_of_file hthere
  obtain ⟨init, last, hnames⟩ : ∃ init last, p.names = init ++ [last] := by
    rcases List.eq_nil_or_concat p.names with hnil | ⟨init, last, hnames⟩
    · simp [hasProperName, hnil] at hproper
    · exact ⟨init, last, by simpa using hnames⟩
  have hup : last ≠ ".." := by simpa [hasProperName, hnames] using hproper
  rw [hnames] at hway
  obtain ⟨m', d, hinit, hlast⟩ := hway.of_append
  have hdir := hlast.directory (by simp)
  obtain ⟨hname, e, he, hfree⟩ := entry_of_leads hup hlast hplain
  refine ⟨d, last, e, ⟨hname, hdir, init, m', hnames, hinit⟩, he, hfree, ?_⟩
  rw [lookup_eq_ok_iff, hnames, walk_append hinit (.inl (by simp)), walk_false_last hdir hname he]
  exact ⟨hfault, rfl⟩

/-- A path to a file that ends otherwise does not end with a link. -/
theorem lookup_of_improper (h : t.lookup true p = .ok (.found l (.file bytes mode)))
    (hproper : hasProperName p = false) :
    t.lookup false p = .ok (.found l (.file bytes mode)) := by
  obtain ⟨hfault, hwalk⟩ := lookup_eq_ok_iff.mp h
  obtain ⟨⟨m, hway⟩, hthere⟩ := walk_true_eq_found_iff.mp hwalk
  rw [lookup_eq_ok_iff]
  refine ⟨hfault, ?_⟩
  rcases List.eq_nil_or_concat p.names with hnil | ⟨init, last, hnames⟩
  · rw [hnil] at hway ⊢
    cases hway
    exact walk_nil false _ hthere
  · rw [List.concat_eq_append] at hnames
    obtain rfl : last = ".." := by simpa [hasProperName, hnames] using hproper
    rw [hnames] at hway ⊢
    obtain ⟨m', d, hinit, hlast⟩ := hway.of_append
    have hmove := move?_up (hlast.directory (by simp))
    obtain rfl := hlast.unique (.direct hmove (.here m' _))
    rw [walk_append hinit (.inl (by simp)), walk_direct hmove, walk_nil false m' hthere]

/-- A file is moved to where a path to another file points, whatever is there. -/
theorem rename_of_found {temp : Location} {e : Entry} (htemp : t.at? temp = some e)
    (h : t.lookup true p = .ok (.found l (.file bytes mode)))
    (hproper : hasProperName p = true) : ∃ d last, t.Points p d last ∧
      t.rename temp p =
        .ok (if d ++ [last] = temp then t else (t.set (d ++ [last]) e).erase temp) := by
  obtain ⟨d, last, old, hpoints, hold, hfree, hlook⟩ := points_of_found h hproper
  refine ⟨d, last, hpoints, ?_⟩
  simp only [rename, htemp, hlook, hproper]
  cases old with
  | directory mode' => exact absurd ⟨mode', hold⟩ hfree
  | file bytes' mode' =>
    simp only [Bool.not_true, Bool.false_eq_true, if_false]
    split <;> rfl
  | link target =>
    simp only [Bool.not_true, Bool.false_eq_true, if_false]
    split <;> rfl

/-- Nothing is busy when a temporary file is made. -/
theorem createTemp_ne_busy {e : Errno} (h : t.createTemp p = .error (.system e)) : e ≠ .busy := by
  obtain ⟨n, hfault⟩ := createTemp_error h
  rcases lookup_error hfault with hown | ⟨e', he', hway⟩
  · rw [pathFault?_system hown]
    decide
  · obtain rfl := PathFault.system.inj he'
    rcases hway with rfl | rfl | rfl | rfl <;> decide

/-- Refusals that agree, up to which of the two stops names that go on after a file. -/
def SameErrno (e e' : Errno) : Prop :=
  e = e' ∨ IsStuck e ∧ IsStuck e'

theorem SameErrno.refl (e : Errno) : SameErrno e e :=
  .inl rfl

theorem SameErrno.symm {e e' : Errno} (h : SameErrno e e') : SameErrno e' e :=
  h.imp Eq.symm And.symm

theorem SameErrno.trans {e e' e'' : Errno} (h : SameErrno e e') (h' : SameErrno e' e'') :
    SameErrno e e'' := by
  rcases h with rfl | ⟨he, he'⟩
  · exact h'
  · rcases h' with rfl | ⟨-, he''⟩
    · exact .inr ⟨he, he'⟩
    · exact .inr ⟨he, he''⟩

theorem IsStuck.ne_busy {e : Errno} (h : IsStuck e) : e ≠ .busy := by
  rcases h with rfl | rfl <;> decide

theorem rename_of_improper {temp : Location} {e : Entry} (htemp : t.at? temp = some e)
    (h : t.lookup true p = .ok (.found l (.file bytes mode)))
    (hproper : hasProperName p = false) : t.rename temp p = .error (.system .busy) := by
  simp only [rename, htemp, lookup_of_improper h hproper, hproper]
  simp

end FileTree

namespace SourceFiles

open FileTree

variable {s : SourceFiles} {t : FileTree} {path content : Text}

/-! ## 3. The ends of a write -/

theorem modeFor_of_found {p : FilePath} {l : Location} {bytes : Bytes} {mode : Nat}
    (h : t.lookup true p = .ok (.found l (.file bytes mode))) :
    modeFor t p = .ok (some mode) := by
  simp only [modeFor, isPresent, leadsTo, stat, h, Entry.mode]

/-- How a write to a path that leads to a file ends. -/
inductive WriteEnd (s : SourceFiles) (t : FileTree) (path content : Text) :
    FileTree × List Log.Event × Except Failure Unit → Prop
  | unencodable {e : Utf8.EncodeError} : Utf8.encode content = .error e →
      WriteEnd s t path content (t, [], .error (.unencodable e))
  | unmade {bytes : Bytes} {fault : PathFault} : Utf8.encode content = .ok bytes →
      s.atomic = true → t.createTemp (s.resolve path) = .error fault →
      WriteEnd s t path content
        (t, [], .error (fault.failure (WriteStep.create.files t.current (s.resolve path))))
  | unnamed {bytes : Bytes} {temp : Location} {made : FileTree} :
      Utf8.encode content = .ok bytes → s.atomic = true →
      t.createTemp (s.resolve path) = .ok (temp, made) →
      hasProperName (s.resolve path) = false →
      WriteEnd s t path content
        (t, [], .error (WriteStep.replace.refusal t.current (s.resolve path) .busy))
  | replaced {bytes old : Bytes} {temp file d : Location} {made : FileTree} {last : Text}
      {mode : Nat} : Utf8.encode content = .ok bytes → s.atomic = true →
      t.createTemp (s.resolve path) = .ok (temp, made) →
      t.lookup true (s.resolve path) = .ok (.found file (.file old mode)) →
      hasProperName (s.resolve path) = true → t.Points (s.resolve path) d last →
      WriteEnd s t path content
        (t.set (d ++ [last]) (.file bytes mode), s.writeEvents path content, .ok ())
  | rewritten {bytes old : Bytes} {file : Location} {mode : Nat} :
      Utf8.encode content = .ok bytes → s.atomic = false →
      t.lookup true (s.resolve path) = .ok (.found file (.file old mode)) →
      WriteEnd s t path content
        (t.set file (.file bytes mode), s.writeEvents path content, .ok ())

/-- An atomic write to a path to a file comes to its last step once it has a temporary file. -/
theorem atomicWrite_of_found {p : FilePath} {old : Bytes} {temp file : Location}
    {made : FileTree} {mode : Nat} (bytes : Bytes) (hmade : t.createTemp p = .ok (temp, made))
    (h : t.lookup true p = .ok (.found file (.file old mode))) :
    ∃ passed, atomicWrite (fun _ => none) t p bytes =
      replaceStep (fun _ => none) passed (t.set temp (.file bytes mode)) temp p := by
  obtain ⟨habsent, rfl, -⟩ := absent_of_createTemp hmade
  have hne := ne_nil_of_absent habsent
  have hmode := modeFor_of_found (lookup_of_made (e := .file bytes privateMode) habsent h)
  refine ⟨[t, t.set temp (.file [] privateMode), t.set temp (.file bytes privateMode)], ?_⟩
  simp only [atomicWrite, hmade, setBytes_set hne, hmode, setMode_set hne]

/-- It succeeds if the path ends with a name proper: the file is then set where the path points. -/
theorem atomicWrite_replaces {p : FilePath} {old : Bytes} {temp file d : Location}
    {made : FileTree} {last : Text} {mode : Nat} (bytes : Bytes)
    (hmade : t.createTemp p = .ok (temp, made))
    (h : t.lookup true p = .ok (.found file (.file old mode)))
    (hproper : hasProperName p = true) (hpoints : t.Points p d last) :
    ∃ passed, atomicWrite (fun _ => none) t p bytes =
      ⟨passed, t.set (d ++ [last]) (.file bytes mode), .ok ()⟩ := by
  obtain ⟨habsent, -, htemp⟩ := absent_of_createTemp hmade
  have hready := lookup_of_made (e := .file bytes mode) habsent h
  have hthere : (t.set temp (.file bytes mode)).at? temp = some (.file bytes mode) := by
    rw [at?_set _ _ _ _ (ne_nil_of_absent habsent), if_pos rfl]
  obtain ⟨d', last', hpoints', hrename⟩ := rename_of_found hthere hready hproper
  obtain ⟨rfl, rfl⟩ := hpoints.unique (points_of_set habsent htemp hpoints')
  have hne : d ++ [last] ≠ temp := by
    rintro rfl
    obtain ⟨e, he, -⟩ := (opens_of_names h (.pointed hpoints)).entry
    exact absurd (habsent.symm.trans he) (by simp)
  obtain ⟨passed, htrace⟩ := atomicWrite_of_found bytes hmade h
  simp only [htrace, replaceStep, hrename, if_neg hne, erase_set_set habsent hne]
  exact ⟨_, rfl⟩

/-- It fails if the path ends otherwise: no file can be moved there. -/
theorem atomicWrite_unnamed {p : FilePath} {old : Bytes} {temp file : Location}
    {made : FileTree} {mode : Nat} (bytes : Bytes) (hmade : t.createTemp p = .ok (temp, made))
    (h : t.lookup true p = .ok (.found file (.file old mode)))
    (hproper : hasProperName p = false) :
    ∃ passed, atomicWrite (fun _ => none) t p bytes =
      ⟨passed, t, .error (WriteStep.replace.refusal t.current p .busy)⟩ := by
  obtain ⟨habsent, -⟩ := absent_of_createTemp hmade
  have hready := lookup_of_made (e := .file bytes mode) habsent h
  have hthere : (t.set temp (.file bytes mode)).at? temp = some (.file bytes mode) := by
    rw [at?_set _ _ _ _ (ne_nil_of_absent habsent), if_pos rfl]
  have hrename := rename_of_improper hthere hready hproper
  obtain ⟨passed, htrace⟩ := atomicWrite_of_found bytes hmade h
  rw [htrace, replaceStep, hrename]
  dsimp only
  rw [abandon, erase_set_of_absent habsent]
  exact ⟨_, rfl⟩

theorem atomicWrite_unmade {p : FilePath} {fault : PathFault} (bytes : Bytes)
    (hmade : t.createTemp p = .error fault) :
    atomicWrite (fun _ => none) t p bytes =
      ⟨[], t, .error (fault.failure (WriteStep.create.files t.current p))⟩ := by
  simp only [atomicWrite, hmade]

/-- The end of a write can be told from the tree before it. -/
theorem WriteEnd.eq {r : FileTree × List Log.Event × Except Failure Unit} {before : Bytes}
    {l : Location} {mode₀ : Nat} (h : WriteEnd s t path content r)
    (hfound : t.lookup true (s.resolve path) = .ok (.found l (.file before mode₀))) :
    s.write t path content = r := by
  cases h with
  | unencodable hencode => simp only [write, writeTrace, hencode]
  | @unmade bytes _ hencode hatomic hmade =>
    have htrace := atomicWrite_unmade bytes hmade
    simp only [write, writeTrace, hencode, hatomic, if_true, htrace]
  | @unnamed bytes _ _ hencode hatomic hmade hproper =>
    obtain ⟨passed, htrace⟩ := atomicWrite_unnamed bytes hmade hfound hproper
    simp only [write, writeTrace, hencode, hatomic, if_true, htrace]
  | @replaced bytes _ _ _ _ _ _ _ hencode hatomic hmade hlookup hproper hpoints =>
    obtain ⟨passed, htrace⟩ := atomicWrite_replaces bytes hmade hlookup hproper hpoints
    simp only [write, writeTrace, hencode, hatomic, if_true, htrace]
  | @rewritten bytes old file mode hencode hatomic hlookup =>
    simp only [write, writeTrace, hencode, hatomic, plainWrite_of_found hlookup]
    rfl

/-- **A write to a path that leads to a file has one of the five ends.** -/
theorem writeEnd_of_found {before : Bytes} {file : Location} {mode : Nat}
    (hfound : t.lookup true (s.resolve path) = .ok (.found file (.file before mode)))
    (content : Text) : WriteEnd s t path content (s.write t path content) := by
  suffices h : ∃ r, WriteEnd s t path content r by
    obtain ⟨r, hr⟩ := h
    rwa [hr.eq hfound]
  cases hencode : Utf8.encode content with
  | error e => exact ⟨_, .unencodable hencode⟩
  | ok bytes =>
    cases hatomic : s.atomic with
    | false => exact ⟨_, .rewritten hencode hatomic hfound⟩
    | true =>
      cases hmade : t.createTemp (s.resolve path) with
      | error fault => exact ⟨_, .unmade hencode hatomic hmade⟩
      | ok made =>
        cases hproper : hasProperName (s.resolve path) with
        | false => exact ⟨_, .unnamed hencode hatomic hmade hproper⟩
        | true =>
          obtain ⟨d, last, -, hpoints, -⟩ := points_of_found hfound hproper
          exact ⟨_, .replaced hencode hatomic hmade hfound hproper hpoints⟩

theorem writeEnd_of_read {old : Text} (hread : s.read t path = .ok old) (content : Text) :
    WriteEnd s t path content (s.write t path content) := by
  obtain ⟨file, before, mode, hfound, -⟩ := read_eq_ok_iff.mp hread
  exact writeEnd_of_found hfound content

/-! ## 4. Where a write sets a file -/

/-- A write to a path sets a file at the spot; before, the path leads to the file. -/
structure Target (s : SourceFiles) (t : FileTree) (path : Text) (spot file : Location) : Prop where
  opens : t.Opens (s.resolve path) spot file
  plain : s.atomic = false → spot = file
  atomic : s.atomic = true → ∃ d last, t.Points (s.resolve path) d last ∧ spot = d ++ [last]

/-- A path whose file has been set leads to it, and the next write sets it there again. -/
theorem Target.unique_set {spot file spot' file' : Location} {bytes : Bytes} {mode : Nat}
    (h : s.Target t path spot file)
    (h' : s.Target (t.set spot (.file bytes mode)) path spot' file') : spot' = spot := by
  cases hatomic : s.atomic with
  | false =>
    obtain rfl := h.plain hatomic
    obtain rfl := h'.plain hatomic
    obtain ⟨n, m, hway⟩ := h.opens.reached
    obtain ⟨n', m', hway'⟩ := h'.opens.reached
    rcases h.opens.leads_of_set hway' with hold | ⟨rfl, -⟩
    · exact hold.unique hway
    · rfl
  | true =>
    obtain ⟨d, last, hpoints, rfl⟩ := h.atomic hatomic
    obtain ⟨d', last', hpoints', rfl⟩ := h'.atomic hatomic
    obtain ⟨rfl, rfl⟩ := (h.opens.points_of_set hpoints').unique hpoints
    rfl

/-- What writes under one path can do to a tree: nothing, or set a file at the path's spot. -/
inductive Touched (s : SourceFiles) (t : FileTree) (path : Text) : FileTree → Prop
  | same : Touched s t path t
  | set {spot file : Location} (bytes : Bytes) (mode : Nat) : s.Target t path spot file →
      Touched s t path (t.set spot (.file bytes mode))

theorem Touched.current {t' : FileTree} (h : s.Touched t path t') : t'.current = t.current := by
  cases h <;> rfl

theorem Touched.trans {t' t'' : FileTree} (h : s.Touched t path t')
    (h' : s.Touched t' path t'') : s.Touched t path t'' := by
  cases h' with
  | same => exact h
  | set bytes' mode' htarget' =>
    cases h with
    | same => exact .set bytes' mode' htarget'
    | set bytes mode htarget =>
      rw [htarget.unique_set htarget', set_set]
      exact .set bytes' mode' htarget

theorem target_of_points {old : Bytes} {file d : Location} {last : Text} {mode : Nat}
    (hatomic : s.atomic = true)
    (hlookup : t.lookup true (s.resolve path) = .ok (.found file (.file old mode)))
    (hpoints : t.Points (s.resolve path) d last) : s.Target t path (d ++ [last]) file := by
  refine ⟨opens_of_names hlookup (.pointed hpoints), fun hplain => ?_, fun _ => ?_⟩
  · exact absurd (hatomic.symm.trans hplain) (by simp)
  · exact ⟨d, last, hpoints, rfl⟩

theorem target_of_found {old : Bytes} {file : Location} {mode : Nat} (hplain : s.atomic = false)
    (hlookup : t.lookup true (s.resolve path) = .ok (.found file (.file old mode))) :
    s.Target t path file file := by
  obtain ⟨⟨m, hway⟩, -⟩ := walk_true_eq_found_iff.mp (lookup_eq_ok_iff.mp hlookup).2
  refine ⟨opens_of_names hlookup (.reached hway), fun _ => rfl, fun hatomic => ?_⟩
  exact absurd (hatomic.symm.trans hplain) (by simp)

/-- A write touches the tree at the spot of its path alone. -/
theorem WriteEnd.touched {r : FileTree × List Log.Event × Except Failure Unit}
    (h : WriteEnd s t path content r) : s.Touched t path r.1 := by
  cases h with
  | unencodable | unmade | unnamed => exact .same
  | replaced _ hatomic _ hlookup _ hpoints =>
    exact .set _ _ (target_of_points hatomic hlookup hpoints)
  | rewritten _ hplain hlookup => exact .set _ _ (target_of_found hplain hlookup)

/-! ## 5. Paths apart from the written one -/

variable {other : Text} {spot file : Location} {bytes : Bytes} {mode : Nat} {t' : FileTree}

/-- A path apart from the written one reads as before, or fails as before. -/
theorem Target.read_set (h : s.Target t path spot file)
    (hother : t.Apart (s.resolve path) (s.resolve other)) (bytes : Bytes) (mode : Nat) :
    s.read (t.set spot (.file bytes mode)) other = s.read t other := by
  have hthere : s.isThere (t.set spot (.file bytes mode)) other = s.isThere t other :=
    h.opens.isFile_set hother bytes mode
  unfold read readLater
  rw [hthere]
  split
  · rfl
  · rfl
  next htrue =>
  obtain ⟨old, mode', hstat⟩ := isFile_eq_ok_true_iff.mp htrue
  obtain ⟨l, hfound⟩ := stat_eq_ok_iff.mp hstat
  have hstat' := stat_eq_ok_iff.mpr ⟨l, h.opens.found_set hother hfound bytes mode⟩
  rw [readBytes_eq_ok_iff.mpr ⟨mode', hstat⟩, readBytes_eq_ok_iff.mpr ⟨mode', hstat'⟩]

/-- A write under one path leaves the target of a path apart from it. -/
theorem Target.target_set {spot' file' : Location} (h : s.Target t path spot file)
    (hother : t.Apart (s.resolve path) (s.resolve other)) (h' : s.Target t other spot' file')
    (e : Entry) : s.Target (t.set spot e) other spot' file' := by
  refine ⟨h.opens.opens_set hother h'.opens e, h'.plain, fun hatomic => ?_⟩
  obtain ⟨d, last, hpoints, hspot⟩ := h'.atomic hatomic
  exact ⟨d, last, h.opens.points_set e hpoints, hspot⟩

/-- The step at which the file system refuses an atomic write to a path to a file. What cannot be
moved is busy, and nothing is busy before. -/
def refusedStep (e : Errno) : WriteStep :=
  if e = .busy then .replace else .create

/-- The failure of an atomic write to a path to a file that the file system refuses. -/
def writeRefusal (s : SourceFiles) (here : Location) (path : Text) (e : Errno) : Failure :=
  (refusedStep e).refusal here (s.resolve path) e

theorem failure_of_unmade {here : Location} {e : Errno} (h : e ≠ .busy) :
    (PathFault.system e).failure (WriteStep.create.files here (s.resolve path)) =
      s.writeRefusal here path e := by
  rw [writeRefusal, refusedStep, if_neg h]
  rfl

/-- Results of a write that agree up to what was drawn for the name of the temporary file and to
the reason why names go on after a file. -/
inductive SameResult (s : SourceFiles) (here : Location) (path : Text) :
    Except Failure Unit → Except Failure Unit → Prop
  | same (r : Except Failure Unit) : SameResult s here path r r
  | refused {e e' : Errno} (part part' : Text) : s.atomic = true → SameErrno e e' →
      SameResult s here path (.error ((s.writeRefusal here path e).drawn part))
        (.error ((s.writeRefusal here path e').drawn part'))

namespace SameResult

variable {here : Location} {r r' r'' : Except Failure Unit}

theorem symm (h : s.SameResult here path r r') : s.SameResult here path r' r := by
  cases h with
  | same => exact .same r
  | refused part part' hatomic herrno => exact .refused part' part hatomic herrno.symm

theorem trans (h : s.SameResult here path r r') (h' : s.SameResult here path r' r'') :
    s.SameResult here path r r'' := by
  cases h with
  | same => exact h'
  | @refused e e' part part' hatomic herrno =>
    generalize hmiddle : (s.writeRefusal here path e').drawn part' = failure at h'
    cases h' with
    | same => exact hmiddle ▸ .refused part part' hatomic herrno
    | refused _ part'' _ herrno' =>
      obtain ⟨rfl, -⟩ := Failure.refused.inj hmiddle
      exact .refused part part'' hatomic (herrno.trans herrno')

end SameResult

/-- The result of a write agrees with itself, whatever is drawn. -/
theorem WriteEnd.agrees {r : FileTree × List Log.Event × Except Failure Unit}
    (h : WriteEnd s t path content r) (part part' : Text) :
    s.SameResult t.current path (r.2.2.mapError (·.drawn part))
      (r.2.2.mapError (·.drawn part')) := by
  cases h with
  | unencodable => exact .same _
  | @unmade _ fault _ hatomic hmade =>
    cases fault with
    | zero | unencodable => exact .same _
    | system e =>
      rw [failure_of_unmade (createTemp_ne_busy hmade)]
      exact .refused part part' hatomic (.refl e)
  | unnamed _ hatomic => exact .refused part part' hatomic (.refl .busy)
  | replaced | rewritten => exact .same _

/-- Files at different spots can be set in any order. -/
theorem Target.set_comm {spot' file' : Location} (h : s.Target t path spot file)
    (hother : t.Apart (s.resolve path) (s.resolve other)) (h' : s.Target t other spot' file')
    (e e' : Entry) : (t.set spot e).set spot' e' = (t.set spot' e').set spot e := by
  have hne : spot ≠ spot' := by
    rintro rfl
    exact (h.opens.not_names hother).1 h'.opens.names_spot
  obtain ⟨old, hold, -⟩ := h.opens.entry
  obtain ⟨old', hold', -⟩ := h'.opens.entry
  exact FileTree.set_comm hne hold hold' h.opens.ne_nil h'.opens.ne_nil e e'

/-- **A path apart from the written one is written as before.** -/
theorem Target.write_set {old : Text} {events : List Log.Event} {result : Except Failure Unit}
    (h : s.Target t path spot file) (hother : t.Apart (s.resolve path) (s.resolve other))
    (hread : s.read t other = .ok old) (hwrite : s.write t other content = (t', events, result))
    (bytes : Bytes) (mode : Nat) : ∃ result',
      s.write (t.set spot (.file bytes mode)) other content =
        (t'.set spot (.file bytes mode), events, result') ∧
      ∀ part part', s.SameResult t.current other (result.mapError (·.drawn part))
        (result'.mapError (·.drawn part')) := by
  obtain ⟨l, before, mode', hfound, -⟩ :=
    read_eq_ok_iff.mp ((h.read_set hother bytes mode).trans hread)
  have hend := writeEnd_of_read hread content
  rw [hwrite] at hend
  have hsame := hend.agrees
  have hmakes := h.opens.createTemp_set (s.resolve other) bytes mode
  -- each way in which the write ends, it ends in after the change too, at the same place
  cases hend with
  | unencodable hencode => exact ⟨_, (WriteEnd.unencodable hencode).eq hfound, hsame⟩
  | unmade hencode hatomic hmade =>
    rw [hmade] at hmakes
    rcases hmakes with ⟨_, _, _, hold, -⟩ | ⟨fault, hold, hnew⟩ | ⟨e, e', he, he', hold, hnew⟩
    · exact absurd hold (by simp)
    · obtain rfl := Except.error.inj hold
      exact ⟨_, (WriteEnd.unmade hencode hatomic hnew).eq hfound, hsame⟩
    · obtain rfl := Except.error.inj hold
      refine ⟨_, (WriteEnd.unmade hencode hatomic hnew).eq hfound, fun part part' => ?_⟩
      rw [failure_of_unmade he.ne_busy, failure_of_unmade he'.ne_busy]
      exact .refused part part' hatomic (.inr ⟨he, he'⟩)
  | unnamed hencode hatomic hmade hproper =>
    rw [hmade] at hmakes
    rcases hmakes with ⟨_, _, _, -, hnew⟩ | ⟨_, hold, -⟩ | ⟨_, _, -, -, hold, -⟩
    · exact ⟨_, (WriteEnd.unnamed hencode hatomic hnew hproper).eq hfound, hsame⟩
    · exact absurd hold (by simp)
    · exact absurd hold (by simp)
  | replaced hencode hatomic hmade hlookup hproper hpoints =>
    rw [hmade] at hmakes
    have hlookup' := h.opens.found_set hother hlookup bytes mode
    have hpoints' := h.opens.points_set (.file bytes mode) hpoints
    rcases hmakes with ⟨_, _, _, -, hnew⟩ | ⟨_, hold, -⟩ | ⟨_, _, -, -, hold, -⟩
    · have hdone := WriteEnd.replaced hencode hatomic hnew hlookup' hproper hpoints'
      have hcomm := h.set_comm hother (target_of_points hatomic hlookup hpoints)
      exact ⟨_, (hdone.eq hfound).trans (by rw [hcomm]), hsame⟩
    · exact absurd hold (by simp)
    · exact absurd hold (by simp)
  | rewritten hencode hplain hlookup =>
    have hlookup' := h.opens.found_set hother hlookup bytes mode
    have hdone := WriteEnd.rewritten hencode hplain hlookup'
    have hcomm := h.set_comm hother (target_of_found hplain hlookup)
    exact ⟨_, (hdone.eq hfound).trans (by rw [hcomm]), hsame⟩

/-! ## 6. Changes that go unnoticed -/

/-- A change that a path does not notice: none, or a file set under a path apart. -/
inductive Unnoticed (s : SourceFiles) (t : FileTree) (path : Text) :
    (FileTree → FileTree) → Prop
  | nothing : Unnoticed s t path id
  | set {other : Text} {spot file : Location} (bytes : Bytes) (mode : Nat) :
      s.Target t other spot file → t.Apart (s.resolve other) (s.resolve path) →
      Unnoticed s t path fun t => t.set spot (.file bytes mode)

/-- What writes under one path do goes unnoticed under a path apart. -/
theorem Touched.unnoticed (h : s.Touched t path t')
    (hother : t.Apart (s.resolve path) (s.resolve other)) :
    ∃ change, t' = change t ∧ s.Unnoticed t other change := by
  cases h with
  | same => exact ⟨id, rfl, .nothing⟩
  | set bytes mode htarget => exact ⟨_, rfl, .set bytes mode htarget hother⟩

/-- What writes under paths apart do can be done in any order. -/
theorem Touched.commutes (h : s.Touched t path t')
    (hother : t.Apart (s.resolve path) (s.resolve other)) :
    ∃ change, t' = change t ∧ s.Unnoticed t other change ∧
      ∀ t'', s.Touched t other t'' → ∃ change', t'' = change' t ∧ s.Unnoticed t path change' ∧
        change t'' = change' t' := by
  cases h with
  | same =>
    refine ⟨id, rfl, .nothing, fun t'' h' => ?_⟩
    obtain ⟨change', hchange, hunnoticed⟩ := h'.unnoticed hother.symm
    exact ⟨change', hchange, hunnoticed, hchange⟩
  | set bytes mode htarget =>
    refine ⟨_, rfl, .set bytes mode htarget hother, fun t'' h' => ?_⟩
    cases h' with
    | same => exact ⟨id, rfl, .nothing, rfl⟩
    | set bytes' mode' htarget' =>
      exact ⟨_, rfl, .set bytes' mode' htarget' hother.symm,
        (htarget.set_comm hother htarget' _ _).symm⟩

/-- Paths that were apart are apart after writes under one of them or under a third. -/
theorem Touched.apart {q r : FilePath} (h : s.Touched t path t')
    (hq : s.resolve path = q ∨ t.Apart (s.resolve path) q)
    (hr : s.resolve path = r ∨ t.Apart (s.resolve path) r) (hqr : t.Apart q r) :
    t'.Apart q r := by
  cases h with
  | same => exact hqr
  | set bytes mode htarget => exact htarget.opens.apart_set hq hr hqr

namespace Unnoticed

variable {change : FileTree → FileTree}

theorem read (h : s.Unnoticed t path change) : s.read (change t) path = s.read t path := by
  cases h with
  | nothing => rfl
  | set bytes mode htarget hapart => exact htarget.read_set hapart bytes mode

/-- Writes under the path itself do not make it notice the change. -/
theorem touched (h : s.Unnoticed t path change) (htouched : s.Touched t path t') :
    s.Unnoticed t' path change := by
  cases h with
  | nothing => exact .nothing
  | set bytes mode htarget hapart =>
    have hapart' := htouched.apart (.inr hapart.symm) (.inl rfl) hapart
    cases htouched with
    | same => exact .set bytes mode htarget hapart
    | set bytes' mode' htarget' =>
      exact .set bytes mode (htarget'.target_set hapart.symm htarget _) hapart'

theorem write {old : Text} {events : List Log.Event} {result : Except Failure Unit}
    (h : s.Unnoticed t path change) (hread : s.read t path = .ok old)
    (hwrite : s.write t path content = (t', events, result)) :
    ∃ result', s.write (change t) path content = (change t', events, result') ∧
      ∀ part part', s.SameResult t.current path (result.mapError (·.drawn part))
        (result'.mapError (·.drawn part')) := by
  cases h with
  | nothing =>
    have hend := writeEnd_of_read hread content
    rw [hwrite] at hend
    exact ⟨result, hwrite, hend.agrees⟩
  | set bytes mode htarget hapart => exact htarget.write_set hapart hread hwrite bytes mode

end Unnoticed

/-- A path apart from a written one reads as before. -/
theorem Touched.read (h : s.Touched t path t')
    (hother : t.Apart (s.resolve path) (s.resolve other)) :
    s.read t' other = s.read t other := by
  obtain ⟨change, rfl, hchange⟩ := h.unnoticed hother
  exact hchange.read

end SourceFiles

end LintMend
