/-
LintMend.Proofs.FileTree.Temporary — when a temporary file can be made.

A temporary file is tried under one name after another, so many as there are entries and one more.
As the names are different, one of them is free, and what is left to fail is the look at one of the
paths: the directory of the path may not be there, or the name may be too long. It is longer than
the name of the path by fourteen bytes.

  `tempName_injective` — different numbers make different names
  `tempFile_drawn`     — how refusals name the file that cannot be made
  `createTemp_error`   — a temporary file fails on account of its path alone
  `createTemp_of_long` — a name may be too long for a temporary file beside it
-/
import Mathlib.Data.List.Nodup
import Mathlib.Data.List.Perm.Subperm
import LintMend.Proofs.FileTree.Replacement
import LintMend.Proofs.Text.Numeral

namespace LintMend.FileTree

variable {t : FileTree} {p : FilePath} {fault : PathFault}

/-! ## 1. Names -/

theorem tempName_injective (name : Text) : Function.Injective (tempName name) := by
  intro n m h
  have hdigits : Text.ofNatBase 10 8 n = Text.ofNatBase 10 8 m := by
    simpa only [tempName, List.append_assoc, List.append_cancel_left_eq,
      List.append_cancel_right_eq] using h
  rw [← Text.digitsValue_ofNatBase 8 n, hdigits, Text.digitsValue_ofNatBase]

theorem nameSize_append (a b : Text) : nameSize (a ++ b) = nameSize a + nameSize b := by
  have hsum : ∀ sizes rest : List Nat, (sizes ++ rest).foldr (· + ·) 0 =
      sizes.foldr (· + ·) 0 + rest.foldr (· + ·) 0 := by
    intro sizes rest
    induction sizes with
    | nil => simp
    | cons size sizes ih => simp [ih, Nat.add_assoc]
  rw [nameSize, List.map_append, hsum]
  rfl

theorem length_le_nameSize (a : Text) : a.length ≤ nameSize a := by
  induction a with
  | nil => exact Nat.le_refl _
  | cons c a ih =>
    have hbytes : 1 ≤ (Utf8.encodeChar c).length := by grind [Utf8.encodeChar]
    have hc : 1 ≤ nameSize [c] := by
      simp only [nameSize, List.map_cons, List.map_nil, List.foldr_cons, List.foldr_nil]
      split <;> omega
    have hsize : nameSize (c :: a) = nameSize [c] + nameSize a := nameSize_append [c] a
    have hlength : (c :: a).length = a.length + 1 := rfl
    omega

/-- Two points, eight digits and an ending of four code points are added to a name. -/
theorem le_nameSize_tempName (name : Text) (n : Nat) :
    nameSize name + 14 ≤ nameSize (tempName name n) := by
  have hdigits : 8 ≤ (Text.ofNatBase 10 8 n).length := by
    simp only [Text.ofNatBase, List.length_append, List.length_replicate, List.length_map]
    omega
  have hsize := length_le_nameSize (Text.ofNatBase 10 8 n)
  have hpoint : nameSize "." = 1 := by decide
  have hend : nameSize ".tmp" = 4 := by decide
  simp only [tempName, nameSize_append]
  omega

theorem tempName_ne (name : Text) (n : Nat) :
    tempName name n ≠ ".." ∧ tempName name n ≠ "." := by
  have hsize := le_nameSize_tempName name n
  constructor
  · intro h
    have hpoints : nameSize ".." = 2 := by decide
    rw [h] at hsize
    omega
  · intro h
    have hpoint : nameSize "." = 1 := by decide
    rw [h] at hsize
    omega

/-! ## 2. Names that are taken -/

theorem mem_of_find {l : Location} {e : Entry} :
    ∀ {es : List (Location × Entry)}, find l es = some e → l ∈ es.map (·.1)
  | [], h => absurd h (by simp [find])
  | (k, old) :: rest, h => by
    rw [find] at h
    split at h
    · next hk => simp [hk]
    · exact List.mem_cons_of_mem k (mem_of_find h)

/-- The path under which the temporary file with a number is made. -/
def tempPath (t : FileTree) (p : FilePath) (n : Nat) : FilePath :=
  (t.absolutePath p.parent).join ⟨.relative, [tempName p.name n]⟩

theorem join_concat_append (separator a b : Text) : ∀ names : List Text,
    Text.join separator (names ++ [a ++ b]) = Text.join separator (names ++ [a]) ++ b
  | [] => rfl
  | [name] => by simp only [List.cons_append, List.nil_append, Text.join, List.append_assoc]
  | name :: next :: rest => by
    have ih := join_concat_append separator a b (next :: rest)
    simp only [List.cons_append, Text.join] at ih ⊢
    rw [ih, List.append_assoc, List.append_assoc, List.append_assoc]

theorem text_join_name (d : FilePath) (name : Text) :
    (d.join ⟨.relative, [name]⟩).text =
      FilePath.rootText d.root ++ Text.join "/" (d.names ++ [name]) := by
  have hjoin : d.join ⟨.relative, [name]⟩ = ⟨d.root, d.names ++ [name]⟩ := rfl
  rw [hjoin, FilePath.text, if_neg (by simp [FilePath.current])]

/-- **Refusals name the path under which the file was to be made**, but for the number, in place of
which they have a part drawn at random. -/
theorem tempFile_drawn (t : FileTree) (p : FilePath) (n : Nat) :
    (tempFile t.current p).drawn (Text.ofNatBase 10 8 n) = .plain (t.tempPath p n).text := by
  have hname : tempName p.name n =
      ("." ++ p.name ++ ".") ++ (Text.ofNatBase 10 8 n ++ ".tmp") := by
    simp only [tempName, List.append_assoc]
  rw [tempFile, FileName.drawn, tempPath, absolutePath, text_join_name, text_join_name, hname,
    join_concat_append _ _ (Text.ofNatBase 10 8 n ++ ".tmp")]
  simp only [List.append_assoc]

/-- A way to the directory in which temporary files are made. -/
def TempDirectory (t : FileTree) (p : FilePath) (d : Location) : Prop :=
  ∃ m, Leads t maxLinks (t.start (t.absolutePath p.parent)) (t.absolutePath p.parent).names m d

/-- A temporary name is taken or free in that directory. -/
theorem place_of_tempPath {n : Nat} {place : Place}
    (h : t.lookup false (t.tempPath p n) = .ok place) :
    ∃ d, t.TempDirectory p d ∧ IsEntryName (tempName p.name n) ∧
      (place = .absent d (tempName p.name n) ∨
        ∃ e, place = .found (d ++ [tempName p.name n]) e ∧
          d ++ [tempName p.name n] ∈ t.entries.map (·.1)) := by
  obtain ⟨-, hwalk⟩ := lookup_eq_ok_iff.mp h
  obtain ⟨m, d, hway, hend⟩ := leads_of_walk (by simp) hwalk
  obtain ⟨hup, hstay⟩ := tempName_ne p.name n
  obtain ⟨-, ⟨hsame, -⟩ | ⟨hname, ⟨-, hplace⟩ | ⟨e, he, hplace⟩⟩⟩ := last_of_walk hend hup
  · exact absurd hsame hstay
  · exact ⟨d, ⟨m, hway⟩, hname, .inl hplace⟩
  · rw [at?, if_neg (by simp)] at he
    exact ⟨d, ⟨m, hway⟩, hname, .inr ⟨e, hplace, mem_of_find he⟩⟩

/-- If no file is made, one of the names cannot be looked up, or all are taken. -/
theorem createTemp_go_error {numbers : List Nat}
    (h : createTemp.go t p (t.absolutePath p.parent) numbers = .error fault) :
    (∃ n, t.lookup false (t.tempPath p n) = .error fault) ∨
      ∀ n ∈ numbers, ∃ l e, t.lookup false (t.tempPath p n) = .ok (.found l e) := by
  induction numbers with
  | nil => exact .inr (by simp)
  | cons n rest ih =>
    rw [createTemp.go] at h
    split at h
    · next f hf =>
      obtain rfl := Except.error.inj h
      exact .inl ⟨n, hf⟩
    · next l e hfound =>
      refine (ih h).imp_right fun htaken => ?_
      rw [List.forall_mem_cons]
      exact ⟨⟨l, e, hfound⟩, htaken⟩
    · exact absurd h (by simp)

/-- If a file is made, one of the names is free. -/
theorem createTemp_go_ok {numbers : List Nat} {made : Location × FileTree}
    (h : createTemp.go t p (t.absolutePath p.parent) numbers = .ok made) :
    ∃ n place, t.lookup false (t.tempPath p n) = .ok place := by
  induction numbers with
  | nil => exact absurd h (by simp [createTemp.go])
  | cons n rest ih =>
    rw [createTemp.go] at h
    split at h
    · exact absurd h (by simp)
    · exact ih h
    · next d name hfree => exact ⟨n, _, hfree⟩

/-! ## 3. Temporary files -/

/-- **A temporary file can be made unless the path of one cannot be looked up**: there are more
names to try than entries, so one of them is free. -/
theorem createTemp_error (h : t.createTemp p = .error fault) :
    ∃ n, t.lookup false (t.tempPath p n) = .error fault := by
  rcases createTemp_go_error h with hfault | htaken
  · exact hfault
  exfalso
  have hspot : ∀ n ∈ List.range (t.entries.length + 1), ∃ d, t.TempDirectory p d ∧
      d ++ [tempName p.name n] ∈ t.entries.map (·.1) := by
    intro n hn
    obtain ⟨l, e, hfound⟩ := htaken n hn
    obtain ⟨d, hway, -, hplace | ⟨e', -, hmem⟩⟩ := place_of_tempPath hfound
    · exact absurd hplace (by simp)
    · exact ⟨d, hway, hmem⟩
  obtain ⟨d, ⟨m, hway⟩, -⟩ := hspot 0 (by simp)
  let spots := (List.range (t.entries.length + 1)).map fun n => d ++ [tempName p.name n]
  have hdistinct : spots.Nodup := List.nodup_range.map fun n n' hsame =>
    tempName_injective p.name (List.singleton_inj.mp (List.append_cancel_left hsame))
  have hentries : spots ⊆ t.entries.map (·.1) := by
    intro l hl
    obtain ⟨n, hn, rfl⟩ := List.mem_map.mp hl
    obtain ⟨d', ⟨m', hway'⟩, hmem⟩ := hspot n hn
    rwa [hway.unique hway']
  have hcount := (hdistinct.subperm hentries).length_le
  simp only [spots, List.length_map, List.length_range] at hcount
  omega

/-- A name of more than 241 bytes has no temporary file beside it. -/
theorem createTemp_of_long (h : maxNameSize < nameSize p.name + 14) :
    ∃ fault, t.createTemp p = .error fault := by
  cases hmade : t.createTemp p with
  | error fault => exact ⟨fault, rfl⟩
  | ok made =>
    obtain ⟨n, place, hlook⟩ := createTemp_go_ok hmade
    obtain ⟨-, -, ⟨-, -, hsize⟩, -⟩ := place_of_tempPath hlook
    have hadded := le_nameSize_tempName p.name n
    omega

end LintMend.FileTree
