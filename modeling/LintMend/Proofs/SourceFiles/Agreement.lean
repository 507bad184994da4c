/-
LintMend.Proofs.SourceFiles.Agreement — the two ways of writing side by side.

A plain write goes into the file that the path leads to. An atomic write puts a new file where the
path points. Both come to the same tree if that is the same place, and the atomic write can fail
where the plain one does not: it needs a second name, longer than the first, in a directory that it
takes from the names of the path alone.

  `write_error_of_found` — why a write to a path to a file fails
  `write_agrees_iff`     — when both ways of writing agree
  `writes_part_at_link`  — and that they do not at a link
-/
import Mathlib
import LintMend.Proofs.FileTree.Temporary
import LintMend.Proofs.SourceFiles.Separation

namespace LintMend

namespace FileTree

variable {t : FileTree} {p : FilePath}

/-! ## 1. Paths to a file itself -/

/-- A file set where a path to a file points is the one set where it leads only if it points to
that file itself: in place of a link another tree arises. -/
theorem points_of_set_eq {d l : Location} {last : Text} {old bytes : Bytes} {mode : Nat}
    (hfound : t.lookup true p = .ok (.found l (.file old mode))) (hpoints : t.Points p d last)
    (hsame : t.set (d ++ [last]) (.file bytes mode) = t.set l (.file bytes mode)) :
    d ++ [last] = l := by
  obtain ⟨e, he, hplain⟩ := (opens_of_names hfound (.pointed hpoints)).entry
  by_contra hne
  cases e with
  | directory mode' => exact hplain ⟨mode', he⟩
  | file bytes' mode' =>
    have hsame := hfound.symm.trans (hpoints.lookup_file (pathFault?_of_lookup hfound) he)
    exact hne (Place.found.inj (Except.ok.inj hsame)).1.symm
  | link target =>
    obtain ⟨-, hthere⟩ := walk_true_eq_found_iff.mp (lookup_eq_ok_iff.mp hfound).2
    have hl : l ≠ [] := by
      rintro rfl
      simp [at?] at hthere
    have hview := congrArg (·.at? (d ++ [last])) hsame
    simp only [at?_set _ _ _ _ hl, at?_set _ _ _ _ (List.append_ne_nil_of_right_ne_nil d
      (List.cons_ne_nil last [])), if_true, if_neg hne, he] at hview
    exact absurd hview (by simp)

end FileTree

namespace SourceFiles

open FileTree

variable {s : SourceFiles} {t t' : FileTree} {path content : Text}

/-! ## 2. Both ways of writing -/

/-- A write to a path to a file fails only because of the text, or, if it is atomic, because the
path ends with no name proper or that of a temporary file cannot be looked up. -/
theorem write_error_of_found {l : Location} {old : Bytes} {mode : Nat} {events : List Log.Event}
    {failure : Failure}
    (hfound : t.lookup true (s.resolve path) = .ok (.found l (.file old mode)))
    (h : s.write t path content = (t', events, .error failure)) : t' = t ∧
      ((∃ e, Utf8.encode content = .error e ∧ failure = .unencodable e) ∨
        hasProperName (s.resolve path) = false ∧
          failure = WriteStep.replace.refusal t.current (s.resolve path) .busy ∨
        ∃ n fault, t.lookup false (t.tempPath (s.resolve path) n) = .error fault ∧
          failure = fault.failure [tempFile t.current (s.resolve path)]) := by
  have hend := writeEnd_of_found (s := s) hfound content
  rw [h] at hend
  cases hend with
  | unencodable hencode => exact ⟨rfl, .inl ⟨_, hencode, rfl⟩⟩
  | unmade _ _ hmade =>
    obtain ⟨n, hfault⟩ := createTemp_error hmade
    exact ⟨rfl, .inr (.inr ⟨n, _, hfault, rfl⟩)⟩
  | unnamed _ _ _ hproper => exact ⟨rfl, .inr (.inl ⟨hproper, rfl⟩)⟩

/-- **An atomic write agrees with a plain one** on a path to a file exactly if its temporary file
can be made and the path ends with the name of that file itself, not of a link to it. -/
theorem write_agrees_iff {l : Location} {old bytes : Bytes} {mode : Nat}
    (hfound : t.lookup true (s.resolve path) = .ok (.found l (.file old mode)))
    (hencode : Utf8.encode content = .ok bytes) :
    (∃ events, { s with atomic := false }.write t path content =
      (t.set l (.file bytes mode), events, .ok ())) ∧
    ((∃ events, { s with atomic := true }.write t path content =
      (t.set l (.file bytes mode), events, .ok ())) ↔
        (∃ made, t.createTemp (s.resolve path) = .ok made) ∧
          hasProperName (s.resolve path) = true ∧
          t.lookup false (s.resolve path) = .ok (.found l (.file old mode))) := by
  have hplain : WriteEnd { s with atomic := false } t path content _ :=
    .rewritten hencode rfl hfound
  refine ⟨⟨_, hplain.eq hfound⟩, ?_, ?_⟩
  · rintro ⟨events, hwrite⟩
    have hend := writeEnd_of_found (s := { s with atomic := true }) hfound content
    rw [hwrite] at hend
    generalize hresult : (t.set l (.file bytes mode), events, Except.ok ()) = result at hend
    cases hend with
    | unencodable | unmade | unnamed => simp at hresult
    | rewritten _ hatomic => exact absurd hatomic (by simp)
    | @replaced bytes' _ temp file d made last mode' hencode' _ hmade hfound' hproper hpoints =>
      obtain ⟨rfl, hfile⟩ := Place.found.inj (Except.ok.inj (hfound.symm.trans hfound'))
      obtain ⟨rfl, rfl⟩ := Entry.file.inj hfile
      obtain rfl := Except.ok.inj (hencode.symm.trans hencode')
      -- the two ways changed the same place, so the path points there without following a link
      have hspot := points_of_set_eq hfound hpoints (Prod.mk.inj hresult).1.symm
      refine ⟨⟨(temp, made), hmade⟩, hproper, ?_⟩
      obtain ⟨d', last', e, hpoints', he, -, hlook⟩ := points_of_found hfound hproper
      obtain ⟨rfl, rfl⟩ := hpoints.unique hpoints'
      obtain ⟨-, hthere⟩ := walk_true_eq_found_iff.mp (lookup_eq_ok_iff.mp hfound).2
      rw [hspot] at he hlook
      rwa [Option.some.inj (he.symm.trans hthere)] at hlook
  · rintro ⟨⟨⟨temp, made⟩, hmade⟩, hproper, hlook⟩
    obtain ⟨d, last, e, hpoints, -, -, hlook'⟩ := points_of_found hfound hproper
    obtain ⟨rfl, -⟩ := Place.found.inj (Except.ok.inj (hlook.symm.trans hlook'))
    have hend : WriteEnd { s with atomic := true } t path content _ :=
      .replaced hencode rfl hmade hfound hproper hpoints
    exact ⟨_, hend.eq hfound⟩

/-- A file, and a link to it. -/
def linkedFile : FileTree :=
  ⟨[], [(["Real.java"], .file [0x41] fileMode), (["L.java"], .link "Real.java")]⟩

set_option maxRecDepth 8000 in
theorem write_agrees_iff_sample :
    linkedFile.lookup true (({} : SourceFiles).resolve "Real.java") =
      .ok (.found ["Real.java"] (.file [0x41] fileMode)) ∧
    Utf8.encode "B" = .ok [0x42] ∧
    ∃ t', (∃ events, SourceFiles.write { atomic := false } linkedFile "Real.java" "B" =
        (t', events, .ok ())) ∧
      ∃ events, SourceFiles.write { atomic := true } linkedFile "Real.java" "B" =
        (t', events, .ok ()) := by
  have hfound : linkedFile.lookup true (({} : SourceFiles).resolve "Real.java") =
      .ok (.found ["Real.java"] (.file [0x41] fileMode)) := by cbv
  have hencode : Utf8.encode "B" = .ok [0x42] := by cbv
  obtain ⟨hplain, hagrees⟩ := write_agrees_iff hfound hencode
  exact ⟨hfound, hencode, _, hplain, hagrees.mpr ⟨⟨_, by cbv⟩, by decide, by cbv⟩⟩

set_option maxRecDepth 8000 in
/-- A link is another matter: the plain write goes to the file behind it, the atomic one puts a
file in its place. -/
theorem writes_part_at_link : ¬ ∀ (s : SourceFiles) (t : FileTree) (path content : Text)
    (l : Location) (old bytes : Bytes) (mode : Nat),
    t.lookup true (s.resolve path) = .ok (.found l (.file old mode)) →
      Utf8.encode content = .ok bytes →
        ({ s with atomic := true }.write t path content).1 =
          ({ s with atomic := false }.write t path content).1 := by
  intro h
  have hsame := h {} linkedFile "L.java" "B" ["Real.java"] [0x41] [0x42] fileMode (by cbv) (by cbv)
  have hplain : (SourceFiles.write { atomic := false } linkedFile "L.java" "B").1 =
      ⟨[], [(["Real.java"], .file [0x42] fileMode), (["L.java"], .link "Real.java")]⟩ := by cbv
  have hatomic : (SourceFiles.write { atomic := true } linkedFile "L.java" "B").1 =
      ⟨[], [(["Real.java"], .file [0x41] fileMode), (["L.java"], .file [0x42] fileMode)]⟩ := by cbv
  exact absurd (hatomic.symm.trans (hsame.trans hplain)) (by decide)

end SourceFiles

end LintMend
