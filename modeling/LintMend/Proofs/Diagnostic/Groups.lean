/-
LintMend.Proofs.Diagnostic.Groups — grouping loses and doubles nothing.

Findings are put into their groups one after the other. In the end there is one group for each file,
in the order in which the files first appear, and it holds the findings of that file in their order.

  `groupByFile_eq`   — the groups in closed form
  `groupByFile_perm` — all groups together are the findings in another order
-/
import LintMend.Diagnostic.Basic
import Mathlib.Data.List.Nodup
import Mathlib.Data.List.Induction

namespace LintMend.Diagnostic

/-! ## 1. The files -/

/-- The files of findings in the order in which they first appear. -/
def files (ds : List Diagnostic) : List Text :=
  (ds.map (·.file)).eraseDups

theorem mem_files {ds : List Diagnostic} {file : Text} :
    file ∈ files ds ↔ ∃ d ∈ ds, d.file = file := by
  simp [files, List.mem_eraseDups]

theorem files_concat (ds : List Diagnostic) (d : Diagnostic) :
    files (ds ++ [d]) = files ds ++ if d.file ∈ files ds then [] else [d.file] := by
  rw [files, List.map_append, List.eraseDups_append]
  by_cases h : d.file ∈ ds.map (·.file)
  · have hgone : [d.file].removeAll (ds.map (·.file)) = [] := by
      simpa [List.removeAll] using h
    simp only [List.map_cons, List.map_nil, hgone, files, List.mem_eraseDups, h, if_true]
    rfl
  · have hstays : [d.file].removeAll (ds.map (·.file)) = [d.file] := by
      simpa [List.removeAll] using h
    simp only [List.map_cons, List.map_nil, hstays, files, List.mem_eraseDups, h, if_false]
    rfl

theorem files_nodup (ds : List Diagnostic) : (files ds).Nodup := by
  induction ds using List.reverseRecOn with
  | nil => exact List.nodup_nil
  | append_singleton ds d ih =>
    rw [files_concat]
    split
    · simpa using ih
    · next h => exact List.nodup_append_comm.mp (List.nodup_cons.mpr ⟨h, ih⟩)

/-! ## 2. The groups -/

/-- A finding joins the group of its file. -/
theorem addToGroups_of_mem {d : Diagnostic} {group : Text → List Diagnostic} {keys : List Text}
    (hkeys : keys.Nodup) (h : d.file ∈ keys) :
    addToGroups d (keys.map fun file => (file, group file)) =
      keys.map fun file => (file, group file ++ if d.file = file then [d] else []) := by
  induction keys with
  | nil => simp at h
  | cons key rest ih =>
    obtain ⟨hkey, hrest⟩ := List.nodup_cons.mp hkeys
    rw [List.map_cons, List.map_cons, addToGroups]
    by_cases heq : key = d.file
    · subst heq
      simp only [if_true, List.cons.injEq, true_and]
      refine List.map_congr_left fun file hfile => ?_
      have hne : d.file ≠ file := fun hsame => hkey (hsame ▸ hfile)
      simp [hne]
    · have hmem : d.file ∈ rest := (List.mem_cons.mp h).resolve_left (Ne.symm heq)
      simp [heq, Ne.symm heq, ih hrest hmem]

/-- A finding of a new file opens a group at the end. -/
theorem addToGroups_of_not_mem {d : Diagnostic} {group : Text → List Diagnostic}
    {keys : List Text} (h : d.file ∉ keys) :
    addToGroups d (keys.map fun file => (file, group file)) =
      keys.map (fun file => (file, group file)) ++ [(d.file, [d])] := by
  induction keys with
  | nil => rfl
  | cons key rest ih =>
    obtain ⟨hne, hrest⟩ := not_or.mp (mt List.mem_cons.mpr h)
    rw [List.map_cons, addToGroups, if_neg (Ne.symm hne), ih hrest, List.cons_append]

theorem groupByFile_concat (ds : List Diagnostic) (d : Diagnostic) :
    groupByFile (ds ++ [d]) = addToGroups d (groupByFile ds) := by
  rw [groupByFile, List.foldl_append]
  rfl

/-- **There is one group for each file**, files in the order of their first appearance, and it holds
the findings of the file in their order. -/
theorem groupByFile_eq (ds : List Diagnostic) :
    groupByFile ds = (files ds).map fun file => (file, ds.filter (·.file = file)) := by
  induction ds using List.reverseRecOn with
  | nil => rfl
  | append_singleton ds d ih =>
    rw [groupByFile_concat, ih, files_concat]
    by_cases h : d.file ∈ files ds
    · rw [addToGroups_of_mem (files_nodup ds) h]
      simp [h, List.filter_append, List.filter_cons]
    · have hnone : ds.filter (·.file = d.file) = [] := by
        rw [List.filter_eq_nil_iff]
        intro e he hfile
        exact h (mem_files.mpr ⟨e, he, of_decide_eq_true hfile⟩)
      rw [addToGroups_of_not_mem h, if_neg h, List.map_append]
      congr 1
      · refine List.map_congr_left fun file hfile => ?_
        have hne : d.file ≠ file := fun hsame => h (hsame ▸ hfile)
        simp [List.filter_append, hne]
      · simp [List.filter_append, hnone]

/-! ## 3. All groups together -/

theorem addToGroups_perm (d : Diagnostic) (groups : List (Text × List Diagnostic)) :
    ((addToGroups d groups).flatMap (·.2)).Perm (groups.flatMap (·.2) ++ [d]) := by
  induction groups with
  | nil => exact .refl _
  | cons group rest ih =>
    obtain ⟨file, members⟩ := group
    rw [addToGroups]
    split
    · simp only [List.flatMap_cons, List.append_assoc]
      exact List.perm_append_comm.append_left members
    · simp only [List.flatMap_cons, List.append_assoc]
      exact ih.append_left members

theorem groupByFile_perm (ds : List Diagnostic) :
    ((groupByFile ds).flatMap (·.2)).Perm ds := by
  induction ds using List.reverseRecOn with
  | nil => exact .refl _
  | append_singleton ds d ih =>
    rw [groupByFile_concat]
    exact (addToGroups_perm d _).trans (ih.append_right [d])

end LintMend.Diagnostic
