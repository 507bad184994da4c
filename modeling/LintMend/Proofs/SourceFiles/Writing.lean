/-
LintMend.Proofs.SourceFiles.Writing — what a write leaves behind.

A write that fails leaves the tree it found, entry for entry. A write that succeeds on a file that
could be read leaves a file that reads as exactly the text written. Both hold whether files are
written plainly or by way of a temporary file, and whatever links lie on the way.

  `atomicWrite_course` — the courses that an atomic write can take, with the trees on its way
  `atomicWrite_ending` — the two ways in which it ends
  `write_error`        — a write that fails changes nothing
  `read_of_write`      — a write that succeeds is read back

The atomic write is the hard one. It sets a file where the path points and not where it leads, so
a link there is gone afterwards. That no earlier name of the path went by that link is
`deadEnd_of_found`: a file was found behind it, and names do not lead on from a file.
-/
import LintMend.Proofs.FileTree.Replacement
import LintMend.Proofs.SourceFiles.Reading
import LintMend.Proofs.Utf8.RoundTrip

namespace LintMend.SourceFiles

open FileTree

variable {s : SourceFiles} {t t' : FileTree} {path : Text}

/-! ## 1. Atomic writes -/

theorem modeFor_error {p : FilePath} {failure : Failure} (h : modeFor t p = .error failure) :
    ∃ (fault : PathFault) (files : List FileName), failure = fault.failure files := by
  unfold modeFor at h
  split at h
  · next e he => exact ⟨.system e, _, (Except.error.inj h).symm⟩
  · exact absurd h (by simp)
  split at h
  · next fault hfault => exact ⟨fault, _, (Except.error.inj h).symm⟩
  · exact absurd h (by simp)

/-- A tree on the way of an atomic write: the one before it, with or without a temporary file. -/
def Midway (t : FileTree) (temp : Location) (u : FileTree) : Prop :=
  u = t ∨ ∃ bytes mode, u = t.set temp (.file bytes mode)

/-- The course of an atomic write: its temporary file cannot be made, is given up, or is moved to
where the path points, with the permission bits that were found for it. -/
inductive Course (t : FileTree) (p : FilePath) (bytes : Bytes) : WriteTrace → Prop
  | unmade (fault : PathFault) (files : List FileName) :
      Course t p bytes ⟨[], t, .error (fault.failure files)⟩
  | abandoned {temp : Location} {made : FileTree} {passed : List FileTree} (fault : PathFault)
      (files : List FileName) : t.createTemp p = .ok (temp, made) →
      (∀ u ∈ passed, Midway t temp u) →
      Course t p bytes ⟨passed, t, .error (fault.failure files)⟩
  | replaced {temp d : Location} {made : FileTree} {passed : List FileTree} {last : Text}
      {mode : Option Nat} : t.createTemp p = .ok (temp, made) → (∀ u ∈ passed, Midway t temp u) →
      modeFor (t.set temp (.file bytes privateMode)) p = .ok mode →
      pathFault? p.text = none → t.Points p d last → ¬ t.HasDirectory (d ++ [last]) →
      Course t p bytes
        ⟨passed, t.set (d ++ [last]) (.file bytes (mode.getD privateMode)), .ok ()⟩

section Stages

variable {fault : WriteStep → Option Errno} {p : FilePath} {temp : Location} {made : FileTree}
  {passed : List FileTree} {bytes bytes' : Bytes} {mode' : Nat}

theorem Midway.concat (hpassed : ∀ u ∈ passed, Midway t temp u) (bytes : Bytes) (mode : Nat) :
    ∀ u ∈ passed ++ [t.set temp (.file bytes mode)], Midway t temp u := by
  intro u hu
  rcases List.mem_append.mp hu with hold | hnew
  · exact hpassed u hold
  · exact .inr ⟨bytes, mode, List.mem_singleton.mp hnew⟩

/-- A write that stops leaves the tree in which its temporary file was made. -/
theorem abandon_course (hmade : t.createTemp p = .ok (temp, made))
    (hpassed : ∀ u ∈ passed, Midway t temp u) (e : PathFault) (files : List FileName) :
    Course t p bytes
      (abandon passed (t.set temp (.file bytes' mode')) temp (e.failure files)) := by
  obtain ⟨habsent, -⟩ := absent_of_createTemp hmade
  rw [abandon, erase_set_of_absent habsent]
  exact .abandoned e files hmade (Midway.concat hpassed bytes' mode')

/-- The last step of an atomic write, with its temporary file ready. -/
theorem replaceStep_course {mode : Option Nat} (hmade : t.createTemp p = .ok (temp, made))
    (hpassed : ∀ u ∈ passed, Midway t temp u)
    (hmode : modeFor (t.set temp (.file bytes privateMode)) p = .ok mode) :
    Course t p bytes (replaceStep fault passed
      (t.set temp (.file bytes (mode.getD privateMode))) temp p) := by
  obtain ⟨habsent, -, htemp⟩ := absent_of_createTemp hmade
  have hne := ne_nil_of_absent habsent
  have hpassed' := Midway.concat hpassed bytes (mode.getD privateMode)
  unfold replaceStep
  split
  · next e he => exact abandon_course hmade hpassed (.system e) _
  split
  · next f hf => exact abandon_course hmade hpassed f _
  next final hrename =>
  obtain ⟨hfault, e, d, last, he, hpoints, hplain, hfinal⟩ := points_of_rename hrename
  obtain rfl : .file bytes (mode.getD privateMode) = e := by simpa [at?_set _ _ _ _ hne] using he
  have hpoints' := points_of_set habsent htemp hpoints
  -- what is replaced is the temporary file itself, or something else
  rcases hfinal with ⟨hsame, rfl⟩ | ⟨hne', rfl⟩
  · have hfree : ¬ t.HasDirectory (d ++ [last]) := by
      rintro ⟨mode', hmode'⟩
      simp [hsame, habsent] at hmode'
    subst hsame
    exact .replaced hmade hpassed' hmode hfault hpoints' hfree
  · have hplain' : ¬ t.HasDirectory (d ++ [last]) := by
      rintro ⟨mode', hmode'⟩
      exact hplain ⟨mode', by rw [at?_set _ _ _ _ hne, if_neg hne', hmode']⟩
    rw [erase_set_set habsent hne']
    exact .replaced hmade hpassed' hmode hfault hpoints' hplain'

/-- **Whichever step fails, an atomic write takes one of the three courses.** -/
theorem atomicWrite_course (fault : WriteStep → Option Errno) (t : FileTree) (p : FilePath)
    (bytes : Bytes) : Course t p bytes (atomicWrite fault t p bytes) := by
  unfold atomicWrite
  split
  · next e he => exact .unmade (.system e) _
  split
  · next f hf => exact .unmade f _
  next temp created hmade =>
  obtain ⟨habsent, rfl, -⟩ := absent_of_createTemp hmade
  have hne := ne_nil_of_absent habsent
  have hstart : ∀ u ∈ [t], Midway t temp u := by simp [Midway]
  have hmid := Midway.concat hstart [] privateMode
  split
  · next e he => exact abandon_course hmade hstart (.system e) _
  simp only [setBytes_set hne, setMode_set hne]
  split
  · next e he => exact abandon_course hmade hmid (.system e) _
  split
  · next failure hmode =>
    obtain ⟨f, files, rfl⟩ := modeFor_error hmode
    exact abandon_course hmade hmid f files
  · next hmode => exact replaceStep_course hmade hmid hmode
  next mode hmode =>
  split
  · next e he => exact abandon_course hmade hmid (.system e) _
  · exact replaceStep_course hmade (Midway.concat hmid bytes privateMode) hmode

end Stages

/-- How a write ends: it fails and changes nothing, or it sets a file where the path points. -/
inductive Ending (t : FileTree) (p : FilePath) (bytes : Bytes) (trace : WriteTrace) : Prop
  | failed (fault : PathFault) (files : List FileName) :
      trace.result = .error (fault.failure files) → trace.final = t → Ending t p bytes trace
  | replaced (d : Location) (last : Text) (mode : Nat) : trace.result = .ok () →
      pathFault? p.text = none → t.Points p d last → ¬ t.HasDirectory (d ++ [last]) →
      trace.final = t.set (d ++ [last]) (.file bytes mode) → Ending t p bytes trace

/-- Whichever step fails, an atomic write ends in one of the two ways. -/
theorem atomicWrite_ending (fault : WriteStep → Option Errno) (t : FileTree) (p : FilePath)
    (bytes : Bytes) : Ending t p bytes (atomicWrite fault t p bytes) := by
  have hcourse := atomicWrite_course fault t p bytes
  generalize atomicWrite fault t p bytes = trace at hcourse ⊢
  cases hcourse with
  | unmade f files | abandoned f files => exact .failed f files rfl rfl
  | replaced _ _ _ hfault hpoints hplain => exact .replaced _ _ _ rfl hfault hpoints hplain rfl

/-! ## 2. Plain writes -/

theorem plainWrite_error {p : FilePath} {bytes : Bytes} {failure : Failure}
    (h : (plainWrite t p bytes).result = .error failure) :
    (plainWrite t p bytes).final = t ∧
      ∃ (fault : PathFault) (files : List FileName), failure = fault.failure files := by
  unfold plainWrite at h ⊢
  split at h
  · next fault hfault => exact ⟨rfl, fault, _, (Except.error.inj h).symm⟩
  · exact absurd h (by simp)

/-- A plain write to a path that leads to a file sets that file. -/
theorem plainWrite_of_found {p : FilePath} {bytes old : Bytes} {l : Location} {mode : Nat}
    (h : t.lookup true p = .ok (.found l (.file old mode))) :
    plainWrite t p bytes = ⟨[t], t.set l (.file bytes mode), .ok ()⟩ := by
  simp only [plainWrite, writeBytes, FileTree.modify, h]

/-! ## 3. Whole writes -/

theorem trace_of_write {content : Text} {events : List Log.Event} {result : Except Failure Unit}
    (h : s.write t path content = (t', events, result)) :
    (s.writeTrace (fun _ => none) t path content).final = t' ∧
      (s.writeTrace (fun _ => none) t path content).result = result := by
  unfold write at h
  simp only at h
  split at h
  · next hresult =>
    obtain ⟨rfl, hrest⟩ := Prod.mk.inj h
    obtain ⟨-, rfl⟩ := Prod.mk.inj hrest
    exact ⟨rfl, hresult⟩
  · next failure hresult =>
    obtain ⟨rfl, hrest⟩ := Prod.mk.inj h
    obtain ⟨-, rfl⟩ := Prod.mk.inj hrest
    exact ⟨rfl, hresult⟩

/-- Whichever step of a write fails, nothing has changed. -/
theorem writeTrace_error {fault : WriteStep → Option Errno} {content : Text} {failure : Failure}
    (h : (s.writeTrace fault t path content).result = .error failure) :
    (s.writeTrace fault t path content).final = t ∧
      ∃ (fault : PathFault) (files : List FileName), failure = fault.failure files := by
  unfold writeTrace at h ⊢
  split at h
  · next e he => exact ⟨rfl, .unencodable e, [], (Except.error.inj h).symm⟩
  next bytes hbytes =>
  split at h
  · next hatomic =>
    simp only [hatomic, if_true]
    cases atomicWrite_ending fault t (s.resolve path) bytes with
    | failed f files hresult hfinal =>
      exact ⟨hfinal, f, files, Except.error.inj (h.symm.trans hresult)⟩
    | replaced d last mode hresult => exact absurd (hresult.symm.trans h) (by simp)
  · next hplain =>
    simp only [hplain]
    exact plainWrite_error h

/-- **A write that fails changes nothing.** -/
theorem write_error {content : Text} {events : List Log.Event} {failure : Failure}
    (h : s.write t path content = (t', events, .error failure)) : t' = t := by
  obtain ⟨rfl, hresult⟩ := trace_of_write h
  exact (writeTrace_error hresult).1

/-- A write fails on its own account, never by the operator's stop. -/
theorem write_ne_interrupted {content : Text} {events : List Log.Event} {failure : Failure}
    (h : s.write t path content = (t', events, .error failure)) : failure ≠ .interrupted := by
  obtain ⟨-, hresult⟩ := trace_of_write h
  obtain ⟨-, fault, files, rfl⟩ := writeTrace_error hresult
  cases fault <;> simp [PathFault.failure]

/-- The failure of a plain write names no temporary file. -/
theorem drawn_of_plain {content : Text} {events : List Log.Event} {failure : Failure}
    (hplain : s.atomic = false) (h : s.write t path content = (t', events, .error failure))
    (part : Text) : failure.drawn part = failure := by
  obtain ⟨-, hresult⟩ := trace_of_write h
  unfold writeTrace at hresult
  split at hresult
  · cases hresult
    rfl
  rw [hplain, if_neg Bool.false_ne_true, plainWrite] at hresult
  split at hresult
  · next fault _ =>
    cases hresult
    cases fault <;> rfl
  · exact absurd hresult (by simp)

/-- A file behind a name makes the name a dead end. -/
theorem deadEnd_of_found {p : FilePath} {d l : Location} {last : Text} {bytes : Bytes}
    {mode : Nat} (h : t.lookup true p = .ok (.found l (.file bytes mode)))
    (hpoints : t.Points p d last) (hplain : ¬ t.HasDirectory (d ++ [last])) :
    t.DeadEnd d last := by
  obtain ⟨-, hwalk⟩ := lookup_eq_ok_iff.mp h
  obtain ⟨⟨m, hway⟩, hthere⟩ := walk_true_eq_found_iff.mp hwalk
  obtain ⟨-, -, init, m', hnames, hinit⟩ := hpoints
  rw [hnames] at hway
  obtain ⟨m'', d', hinit', hlast⟩ := hway.of_append
  obtain rfl := hinit.unique hinit'
  refine ⟨hplain, fun {n q k} hway' => ?_⟩
  obtain rfl := hlast.unique hway'
  rintro ⟨mode', hmode'⟩
  exact absurd (hthere.symm.trans hmode') (by simp)

/-- **A write that succeeds is read back**, exactly. -/
theorem read_of_write {content old : Text} {events : List Log.Event}
    (hread : s.read t path = .ok old)
    (h : s.write t path content = (t', events, .ok ())) : s.read t' path = .ok content := by
  obtain ⟨l, before, mode, hlookup, -⟩ := read_eq_ok_iff.mp hread
  obtain ⟨rfl, hresult⟩ := trace_of_write h
  rw [read_eq_ok_iff]
  unfold writeTrace at hresult ⊢
  split at hresult
  · exact absurd hresult (by simp)
  next bytes hbytes =>
  have hdecode := Utf8.decode_encode hbytes
  split at hresult
  · next hatomic =>
    simp only [hatomic, if_true]
    cases atomicWrite_ending (fun _ => none) t (s.resolve path) bytes with
    | failed failure files herror => exact absurd (herror.symm.trans hresult) (by simp)
    | replaced d last mode' _ hfault hpoints hplain hfinal =>
      have hdead := deadEnd_of_found hlookup hpoints hplain
      rw [hfinal]
      exact ⟨_, bytes, mode', lookup_of_set hfault hpoints hdead bytes mode', hdecode⟩
  · next hplain =>
    simp only [hplain, plainWrite_of_found hlookup]
    exact ⟨l, bytes, mode, lookup_of_rewritten hlookup, hdecode⟩

end LintMend.SourceFiles
