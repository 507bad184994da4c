/-
LintMend.Proofs.FileTree.Growth — trees to which a file is added, and the way to it.

A program that keeps a log makes the directories on the way of its log file, makes the file, and
adds to it. Whatever else a tree holds stays, entry for entry. What the way and the file are is told
by the later tree: there the beginnings of the path lead to the new directories, and the path
itself leads to the file.

  `lookup_of_filled`         — a path leads to what is put where it found a name missing
  `GrownAt`, `GrownBy`       — what may have happened at a location, and at all of them
  `GrownBy.trans`            — one growth after another is a growth
  `grownBy_makeDirectories`  — the way
  `grownBy_appendBytes`      — the file
-/
import LintMend.Proofs.FileTree.Replacement

namespace LintMend.FileTree

variable {t t' t'' : FileTree} {l : Location}

/-! ## 1. What is put where a name was missing -/

/-- Names that lead up to a missing one lead to what is put under it, unless that is a link. -/
theorem leads_of_filled {b : Bool} {d : Location} {last : Text} {e : Entry}
    (hplain : ∀ target, e ≠ .link target) : ∀ {n : Nat} {l : Location} {names : List Text},
    t.walk b n l names = .ok (.absent d last) →
      ∃ m, Leads (t.set (d ++ [last]) e) n l names m (d ++ [last])
  | n, l, [], h => by
    obtain ⟨e', -, hplace⟩ := found_of_walk_nil h
    exact absurd hplace (by simp)
  | n, l, name :: rest, h => by
    have hkept := kept_set_of_absent e (absent_of_walk h).2
    obtain ⟨hl, step⟩ := walkStep_of_walk h
    cases step with
    | direct l' hmove hgo =>
      obtain ⟨m, hway⟩ := leads_of_filled hplain hgo
      exact ⟨m, .direct (move?_of_kept (hkept _) (fun _ => hkept _) hmove) hway⟩
    | along start names left hmove _ hleft hgo =>
      obtain ⟨m, hway⟩ := leads_of_filled hplain hgo
      subst hleft
      exact ⟨m, .along (move?_of_kept (hkept _) (fun _ => hkept _) hmove) hway⟩
    | stop target _ _ _ _ hplace => exact absurd hplace (by simp)
    | absent hname _ hrest hplace =>
      obtain ⟨rfl, rfl⟩ := Place.absent.inj hplace
      subst hrest
      have hthere : (t.set (d ++ [last]) e).at? (d ++ [last]) = some e := by
        rw [at?_set _ _ _ _ (by simp), if_pos rfl]
      have hmove := move?_entry ((hkept d).hasDirectory hl) hname hthere
      cases e with
      | link target => exact absurd rfl (hplain target)
      | file bytes mode => exact ⟨n, .direct hmove (.here n _)⟩
      | directory mode => exact ⟨n, .direct hmove (.here n _)⟩
  termination_by n _ names => (n, names.length)

/-- A path that finds its last name missing leads to what is put there. -/
theorem lookup_of_filled {b : Bool} {p : FilePath} {d : Location} {last : Text} {e : Entry}
    (h : t.lookup b p = .ok (.absent d last)) (hplain : ∀ target, e ≠ .link target) :
    (t.set (d ++ [last]) e).lookup true p = .ok (.found (d ++ [last]) e) := by
  obtain ⟨hfault, hwalk⟩ := lookup_eq_ok_iff.mp h
  rw [lookup_eq_ok_iff, walk_true_eq_found_iff]
  exact ⟨hfault, leads_of_filled hplain hwalk, by rw [at?_set _ _ _ _ (by simp), if_pos rfl]⟩

/-! ## 2. Growth -/

/-- What may have happened at a location when directories were made on the way of a file, and the
file was made and added to. -/
inductive GrownAt (file : FilePath) (t t' : FileTree) (l : Location) : Prop
  | same : t'.at? l = t.at? l → GrownAt file t t' l
  /-- A directory was made there, to which a beginning of the path leads. -/
  | directory (names : List Text) : t.at? l = none → names <+: file.parent.names →
      t'.lookup true ⟨file.root, names⟩ = .ok (.found l (.directory directoryMode)) →
      GrownAt file t t' l
  /-- The file was made there. -/
  | made (bytes : Bytes) : t.at? l = none →
      t'.lookup true (t.absolutePath file) = .ok (.found l (.file bytes fileMode)) →
      GrownAt file t t' l
  /-- The file was there, and has been added to. -/
  | added (old more : Bytes) (mode : Nat) : t.at? l = some (.file old mode) →
      t'.lookup true (t.absolutePath file) = .ok (.found l (.file (old ++ more) mode)) →
      GrownAt file t t' l

/-- A tree has grown by a file and the way to it, and everything else stays. -/
structure GrownBy (file : FilePath) (t t' : FileTree) : Prop where
  current : t'.current = t.current
  everywhere : ∀ l, GrownAt file t t' l

theorem absolutePath_of_current (h : t'.current = t.current) (p : FilePath) :
    t'.absolutePath p = t.absolutePath p := by
  simp only [absolutePath, h]

namespace GrownBy

variable {file : FilePath}

theorem refl (file : FilePath) (t : FileTree) : GrownBy file t t :=
  ⟨rfl, fun _ => .same rfl⟩

theorem kept (h : GrownBy file t t') (l : Location) : KeptAt t t' l := by
  intro e he
  cases h.everywhere l with
  | same hsame => exact ⟨e, hsame.trans he, .refl e⟩
  | directory names hfree _ _ => exact absurd (hfree.symm.trans he) (by simp)
  | made bytes hfree _ => exact absurd (hfree.symm.trans he) (by simp)
  | added old more mode hold hfound =>
    obtain rfl := Option.some.inj (hold.symm.trans he)
    exact ⟨_, at?_of_found hfound, trivial⟩

/-- What is found under a path in a tree is found there when the tree has grown further: a
directory as it was, and a file with more in it at most. -/
theorem found (h : GrownBy file t t') {p : FilePath} {e : Entry}
    (hfound : t.lookup true p = .ok (.found l e)) :
    t'.lookup true p = .ok (.found l e) ∨ ∃ old more mode, e = .file old mode ∧
      t'.lookup true p = .ok (.found l (.file (old ++ more) mode)) := by
  have he := at?_of_found hfound
  obtain ⟨e', he', -⟩ := h.kept l e he
  have hlookup := lookup_of_kept h.kept h.current hfound he'
  cases h.everywhere l with
  | same hsame =>
    obtain rfl := Option.some.inj (he'.symm.trans (hsame.trans he))
    exact .inl hlookup
  | directory names hfree _ _ => exact absurd (hfree.symm.trans he) (by simp)
  | made bytes hfree _ => exact absurd (hfree.symm.trans he) (by simp)
  | added old more mode hold hgrown =>
    obtain rfl := Option.some.inj (he.symm.trans hold)
    obtain rfl := Option.some.inj (he'.symm.trans (at?_of_found hgrown))
    exact .inr ⟨old, more, mode, rfl, hlookup⟩

theorem trans (h : GrownBy file t t') (h' : GrownBy file t' t'') : GrownBy file t t'' := by
  have hpath := absolutePath_of_current h.current file
  refine ⟨h'.current.trans h.current, fun l => ?_⟩
  cases h.everywhere l with
  | same hsame =>
    cases h'.everywhere l with
    | same hsame' => exact .same (hsame'.trans hsame)
    | directory names hfree hnames hfound =>
      exact .directory names (hsame.symm.trans hfree) hnames hfound
    | made bytes hfree hfound => exact .made bytes (hsame.symm.trans hfree) (hpath ▸ hfound)
    | added old more mode hold hfound =>
      exact .added old more mode (hsame.symm.trans hold) (hpath ▸ hfound)
  | directory names hfree hnames hfound =>
    rcases h'.found hfound with hfound' | ⟨old, more, mode, heq, -⟩
    · exact .directory names hfree hnames hfound'
    · exact absurd heq (by simp)
  | made bytes hfree hfound =>
    rcases h'.found hfound with hfound' | ⟨old, more, mode, heq, hfound'⟩
    · exact .made bytes hfree hfound'
    · obtain ⟨rfl, rfl⟩ := Entry.file.inj heq
      exact .made _ hfree hfound'
  | added old more mode hold hfound =>
    rcases h'.found hfound with hfound' | ⟨old', more', mode', heq, hfound'⟩
    · exact .added old more mode hold hfound'
    · obtain ⟨rfl, rfl⟩ := Entry.file.inj heq
      rw [List.append_assoc] at hfound'
      exact .added old (more ++ more') mode hold hfound'

/-- One entry is put in place, and what happens there is a growth. -/
theorem of_set {k : Location} {e : Entry} (hk : k ≠ []) (h : GrownAt file t (t.set k e) k) :
    GrownBy file t (t.set k e) := by
  refine ⟨rfl, fun l => ?_⟩
  by_cases hl : l = k
  · exact hl ▸ h
  · exact .same (by rw [at?_set _ _ _ _ hk, if_neg hl])

end GrownBy

/-! ## 3. The way -/

section Directories

variable {file : FilePath} {names : List Text}

theorem grownBy_makeDirectory (hnames : names <+: file.parent.names)
    (h : t.makeDirectory ⟨file.root, names⟩ = .ok t') : GrownBy file t t' := by
  unfold makeDirectory at h
  split at h
  · exact absurd h (by simp)
  · exact absurd h (by simp)
  · next d last hlookup =>
    obtain rfl := Except.ok.inj h
    have hfree := (absent_of_walk (lookup_eq_ok_iff.mp hlookup).2).2
    exact .of_set (by simp) (.directory names hfree hnames (lookup_of_filled hlookup (by simp)))

theorem grownBy_ensureDirectory (hnames : names <+: file.parent.names) :
    GrownBy file t (t.ensureDirectory ⟨file.root, names⟩).1 := by
  unfold ensureDirectory
  split
  · next made hmade => exact grownBy_makeDirectory hnames hmade
  · split <;> exact .refl file t
  · exact .refl file t

theorem grownBy_makeDirectories_go {reversed : List Text} :
    ∀ {t : FileTree}, reversed.reverse <+: file.parent.names →
      GrownBy file t (makeDirectories.go file.parent t reversed).1 := by
  induction reversed with
  | nil => exact fun h => grownBy_ensureDirectory h
  | cons name above ih =>
    intro t hnames
    have habove : above.reverse <+: file.parent.names := by
      rw [List.reverse_cons] at hnames
      exact (List.prefix_append _ _).trans hnames
    have hfirst :
        GrownBy file t (t.ensureDirectory ⟨file.parent.root, (name :: above).reverse⟩).1 :=
      grownBy_ensureDirectory hnames
    rw [makeDirectories.go]
    split
    · next first hensure =>
      rw [hensure] at hfirst
      have hrest := hfirst.trans (ih (t := first) habove)
      split
      · next second hgo =>
        rw [hgo] at hrest
        exact hrest.trans (grownBy_ensureDirectory hnames)
      · exact hrest
    · exact hfirst

/-- **Directories are made on the way only**, also if not all of them can be made. -/
theorem grownBy_makeDirectories (file : FilePath) (t : FileTree) :
    GrownBy file t (t.makeDirectories file.parent).1 :=
  grownBy_makeDirectories_go (by simp)

end Directories

/-! ## 4. The file -/

/-- **Adding to a file changes that file only**, or makes it. -/
theorem grownBy_appendBytes {file : FilePath} {bytes : Bytes}
    (h : t.appendBytes (t.absolutePath file) bytes = .ok t') : GrownBy file t t' := by
  unfold appendBytes FileTree.modify at h
  split at h
  · exact absurd h (by simp)
  · next here old mode hlookup =>
    obtain rfl := Except.ok.inj h
    have hthere := at?_of_found hlookup
    exact .of_set (ne_nil_of_file hthere)
      (.added old bytes mode hthere (lookup_of_rewritten hlookup))
  · exact absurd h (by simp)
  · next d last hlookup =>
    obtain rfl := Except.ok.inj h
    have hfree := (absent_of_walk (lookup_eq_ok_iff.mp hlookup).2).2
    exact .of_set (by simp) (.made _ hfree (lookup_of_filled hlookup (by simp)))

end LintMend.FileTree
