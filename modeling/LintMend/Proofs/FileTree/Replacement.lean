/-
LintMend.Proofs.FileTree.Replacement — what is left of a temporary file.

A file is made under a fresh location, changed there, and moved to where a path points or taken
away. All of this is about trees as they are, entries in their order, and not only about the view
`at?`: taking the file away gives back the very tree, and moving it gives the tree in which the
target was set.

  `erase_set_of_absent`, `erase_set_set` — the two ends of a temporary file
  `absent_of_createTemp`                 — a temporary location is free
  `lookup_of_kept`                       — a path leads where it led while all entries are kept
  `Points`                               — a path points to a name in a directory
  `Points.of_replaced`                   — it does so whatever stands at a dead end
  `points_of_rename`                     — what a move does that succeeds
  `lookup_of_set`                        — a file set where a path points is found by the path
-/
import LintMend.FileTree.Change
import LintMend.Proofs.FileTree.Following

namespace LintMend.FileTree

/-! ## 1. Entries -/

theorem place_of_find_none {l : Location} {es : List (Location × Entry)} (e : Entry)
    (h : find l es = none) : place l e es = es ++ [(l, e)] := by
  induction es with
  | nil => rfl
  | cons head rest ih =>
    obtain ⟨k, old⟩ := head
    simp only [find] at h
    split at h
    · exact absurd h (by simp)
    next hk => rw [place, if_neg hk, ih h, List.cons_append]

theorem place_place (l : Location) (e e' : Entry) (es : List (Location × Entry)) :
    place l e' (place l e es) = place l e' es := by
  induction es with
  | nil => simp [place]
  | cons head rest ih =>
    obtain ⟨k, old⟩ := head
    by_cases hk : k = l
    · simp [place, hk]
    · simp [place, hk, ih]

/-- Entries whose location is not among them are all of the other locations. -/
theorem filter_of_find_none {l : Location} {es : List (Location × Entry)}
    (h : find l es = none) : es.filter (·.1 ≠ l) = es := by
  induction es with
  | nil => rfl
  | cons head rest ih =>
    obtain ⟨k, old⟩ := head
    simp only [find] at h
    split at h
    · exact absurd h (by simp)
    next hk => rw [List.filter_cons_of_pos (by simpa using hk), ih h]

theorem filter_place {l k : Location} (hkl : k ≠ l) (e : Entry) (es : List (Location × Entry)) :
    (place k e es).filter (·.1 ≠ l) = place k e (es.filter (·.1 ≠ l)) := by
  induction es with
  | nil => simp [place, hkl]
  | cons head rest ih =>
    obtain ⟨j, old⟩ := head
    by_cases hj : j = k
    · subst hj
      simp [place, hkl]
    · by_cases hjl : j = l
      · subst hjl
        simpa [place, hj] using ih
      · simpa [place, hj, hjl] using ih

/-! ## 2. A location that is free -/

theorem ne_nil_of_absent {t : FileTree} {l : Location} (h : t.at? l = none) : l ≠ [] := by
  rintro rfl
  simp [at?] at h

theorem ne_nil_of_file {t : FileTree} {l : Location} {bytes : Bytes} {mode : Nat}
    (h : t.at? l = some (.file bytes mode)) : l ≠ [] := by
  rintro rfl
  simp [at?] at h

theorem find_of_absent {t : FileTree} {l : Location} (h : t.at? l = none) :
    find l t.entries = none := by
  rw [at?, if_neg (ne_nil_of_absent h)] at h
  exact h

theorem set_set (t : FileTree) (l : Location) (e e' : Entry) :
    (t.set l e).set l e' = t.set l e' := by
  simp only [set, place_place]

theorem filter_place_of_absent {t : FileTree} {l : Location} (h : t.at? l = none) (e : Entry) :
    (place l e t.entries).filter (·.1 ≠ l) = t.entries := by
  rw [place_of_find_none e (find_of_absent h), List.filter_append,
    filter_of_find_none (find_of_absent h)]
  simp

/-- What is made at a free location and taken away leaves nothing behind. -/
theorem erase_set_of_absent {t : FileTree} {l : Location} (h : t.at? l = none) (e : Entry) :
    (t.set l e).erase l = t := by
  simp only [set, erase, filter_place_of_absent h e]

/-- What is made at a free location and moved elsewhere leaves only what was moved. -/
theorem erase_set_set {t : FileTree} {l k : Location} (h : t.at? l = none) (hk : k ≠ l)
    (e e' : Entry) : ((t.set l e).set k e').erase l = t.set k e' := by
  simp only [set, erase, filter_place hk, filter_place_of_absent h e]

theorem setBytes_set {t : FileTree} {l : Location} (hl : l ≠ []) (bytes bytes' : Bytes)
    (mode : Nat) :
    (t.set l (.file bytes mode)).setBytes l bytes' = t.set l (.file bytes' mode) := by
  simp only [setBytes, at?_set t l l _ hl, if_true, set_set]

theorem setMode_set {t : FileTree} {l : Location} (hl : l ≠ []) (bytes : Bytes)
    (mode mode' : Nat) :
    (t.set l (.file bytes mode)).setMode l mode' = t.set l (.file bytes mode') := by
  simp only [setMode, at?_set t l l _ hl, if_true, set_set]

/-! ## 3. Where a path points -/

/-- Where a path starts. -/
def start (t : FileTree) (p : FilePath) : Location :=
  if p.isAbsolute then [] else t.current

theorem lookup_eq_ok_iff {t : FileTree} {b : Bool} {p : FilePath} {place : Place} :
    t.lookup b p = .ok place ↔
      pathFault? p.text = none ∧ t.walk b maxLinks (t.start p) p.names = .ok place := by
  unfold lookup start
  split
  · next fault hfault => simp [hfault]
  next hfault =>
  simp only [hfault, true_and]
  split
  · next place' hplace => simp only [hplace, Except.ok.injEq]
  · next e he => simp [he]

theorem at?_of_found {t : FileTree} {p : FilePath} {l : Location} {e : Entry}
    (h : t.lookup true p = .ok (.found l e)) : t.at? l = some e :=
  (walk_true_eq_found_iff.mp (lookup_eq_ok_iff.mp h).2).2

/-- A path that finds an entry finds it in every tree that has all entries, up to the content of
files. -/
theorem lookup_of_kept {t t' : FileTree} {p : FilePath} {l : Location} {e e' : Entry}
    (hkept : ∀ k, KeptAt t t' k) (hcurrent : t'.current = t.current)
    (h : t.lookup true p = .ok (.found l e)) (he' : t'.at? l = some e') :
    t'.lookup true p = .ok (.found l e') := by
  obtain ⟨hfault, hwalk⟩ := lookup_eq_ok_iff.mp h
  obtain ⟨⟨m, hway⟩, -⟩ := walk_true_eq_found_iff.mp hwalk
  have hstart : t'.start p = t.start p := by simp only [start, hcurrent]
  rw [lookup_eq_ok_iff, walk_true_eq_found_iff, hstart]
  exact ⟨hfault, ⟨m, hway.of_kept hkept⟩, he'⟩

/-- A change where there was nothing keeps all entries. -/
theorem kept_set_of_absent {t : FileTree} {k : Location} (e : Entry) (h : t.at? k = none)
    (l : Location) : KeptAt t (t.set k e) l := by
  intro old hold
  have hl : l ≠ k := by
    rintro rfl
    simp [h] at hold
  exact ⟨old, by rw [at?_set _ _ _ _ (ne_nil_of_absent h), if_neg hl, hold], .refl old⟩

/-- A path leads where it led after an entry is made at a location that was free. -/
theorem lookup_of_made {t : FileTree} {p : FilePath} {l temp : Location} {e old : Entry}
    (habsent : t.at? temp = none) (h : t.lookup true p = .ok (.found l old)) :
    (t.set temp e).lookup true p = .ok (.found l old) := by
  have hthere := at?_of_found h
  have hl : l ≠ temp := by
    rintro rfl
    simp [habsent] at hthere
  refine lookup_of_kept (kept_set_of_absent e habsent) rfl h ?_
  rw [at?_set _ _ _ _ (ne_nil_of_absent habsent), if_neg hl, hthere]

/-- A path to a file leads to it after other bytes are put into it, since no way reads what a file
holds. -/
theorem lookup_of_rewritten {t : FileTree} {p : FilePath} {l : Location} {bytes old : Bytes}
    {mode : Nat} (h : t.lookup true p = .ok (.found l (.file old mode))) :
    (t.set l (.file bytes mode)).lookup true p = .ok (.found l (.file bytes mode)) := by
  have hthere := at?_of_found h
  have hne := ne_nil_of_file hthere
  have hset : (t.set l (.file bytes mode)).at? l = some (.file bytes mode) := by
    rw [at?_set _ _ _ _ hne, if_pos rfl]
  have hkept : ∀ k, KeptAt t (t.set l (.file bytes mode)) k := by
    intro k e he
    by_cases hk : k = l
    · subst hk
      obtain rfl := Option.some.inj (he.symm.trans hthere)
      exact ⟨_, hset, trivial⟩
    · exact ⟨e, by rw [at?_set _ _ _ _ hne, if_neg hk, he], .refl e⟩
  exact lookup_of_kept hkept rfl h hset

/-- A path points to a name in a directory: the names before the last one lead there. -/
structure Points (t : FileTree) (p : FilePath) (d : Location) (last : Text) : Prop where
  name : IsEntryName last
  directory : t.HasDirectory d
  way : ∃ init m, p.names = init ++ [last] ∧ Leads t maxLinks (t.start p) init m d

/-- A walk that does not follow its one name, and does not lead up, stays, or names an entry. -/
theorem last_of_walk {t : FileTree} {n : Nat} {d : Location} {last : Text} {place : Place}
    (h : t.walk false n d [last] = .ok place) (hup : last ≠ "..") :
    t.HasDirectory d ∧ (last = "." ∧ (∃ mode, place = .found d (.directory mode)) ∨
      IsEntryName last ∧ (t.at? (d ++ [last]) = none ∧ place = .absent d last ∨
        ∃ e, t.at? (d ++ [last]) = some e ∧ place = .found (d ++ [last]) e)) := by
  obtain ⟨hd, step⟩ := walkStep_of_walk h
  refine ⟨hd, ?_⟩
  cases step with
  | along start names left hmove hgo => exact absurd ⟨rfl, rfl⟩ hgo
  | stop target hname he _ _ hplace => exact .inr ⟨hname, .inr ⟨_, he, hplace⟩⟩
  | absent hname he _ hplace => exact .inr ⟨hname, .inl ⟨he, hplace⟩⟩
  | direct l' hmove hgo =>
    obtain ⟨e, he, hplace⟩ := found_of_walk_nil hgo
    rcases (move?_cases hmove).2 with ⟨h, -⟩ | ⟨hsame, hstay⟩ | ⟨hname, e', he', hentry⟩
    · exact absurd h hup
    · obtain ⟨mode, hmode⟩ := hd
      obtain rfl := Move.direct.inj hstay
      obtain rfl := Option.some.inj (he.symm.trans hmode)
      exact .inl ⟨hsame, mode, hplace⟩
    · have hl' : l' = d ++ [last] := by
        cases e' with
        | link target => exact absurd hentry (by simp [Move.ofEntry])
        | file bytes mode => exact Move.direct.inj hentry
        | directory mode => exact Move.direct.inj hentry
      subst hl'
      exact .inr ⟨hname, .inr ⟨e, he, hplace⟩⟩

/-- A place that is found without following the last name, if that is a name proper, is a
directory, or is what stands where the path points. -/
theorem points_of_lookup {t : FileTree} {p : FilePath} {place : Place}
    (h : t.lookup false p = .ok place) (hp : hasProperName p = true) :
    (∃ l mode, place = .found l (.directory mode)) ∨ ∃ d last, t.Points p d last ∧
      (t.at? (d ++ [last]) = none ∧ place = .absent d last ∨
        ∃ e, t.at? (d ++ [last]) = some e ∧ place = .found (d ++ [last]) e) := by
  obtain ⟨-, hwalk⟩ := lookup_eq_ok_iff.mp h
  obtain ⟨init, last, hnames⟩ : ∃ init last, p.names = init ++ [last] := by
    rcases List.eq_nil_or_concat p.names with hnil | ⟨init, last, hnames⟩
    · simp [hasProperName, hnil] at hp
    · exact ⟨init, last, by simpa using hnames⟩
  have hup : last ≠ ".." := by simpa [hasProperName, hnames] using hp
  rw [hnames] at hwalk
  obtain ⟨m, d, hway, hend⟩ := leads_of_walk (by simp) hwalk
  obtain ⟨hd, ⟨-, hstay⟩ | ⟨hname, hentry⟩⟩ := last_of_walk hend hup
  · exact .inl ⟨d, hstay⟩
  · exact .inr ⟨d, last, ⟨hname, hd, init, m, hnames, hway⟩, hentry⟩

/-- A path that points to a file finds it. -/
theorem Points.lookup_file {t : FileTree} {p : FilePath} {d : Location} {last : Text}
    {bytes : Bytes} {mode : Nat} (h : t.Points p d last) (hfault : pathFault? p.text = none)
    (hthere : t.at? (d ++ [last]) = some (.file bytes mode)) :
    t.lookup true p = .ok (.found (d ++ [last]) (.file bytes mode)) := by
  obtain ⟨hname, hd, init, m, hnames, hway⟩ := h
  have hmove := move?_entry hd hname hthere
  rw [lookup_eq_ok_iff, walk_true_eq_found_iff]
  refine ⟨hfault, ⟨m, ?_⟩, hthere⟩
  rw [hnames]
  exact hway.append (.direct hmove (.here m _))

/-- A path points where it pointed if the ways to that directory are left. -/
theorem Points.of_ways {t t' : FileTree} {p : FilePath} {d : Location} {last : Text}
    (h : t.Points p d last) (hcurrent : t'.current = t.current) (hd : t'.HasDirectory d)
    (hways : ∀ {n m : Nat} {l : Location} {xs : List Text}, Leads t n l xs m d →
      Leads t' n l xs m d) : t'.Points p d last := by
  obtain ⟨hname, -, init, m, hnames, hway⟩ := h
  have hstart : t'.start p = t.start p := by simp only [start, hcurrent]
  refine ⟨hname, hd, init, m, hnames, ?_⟩
  rw [hstart]
  exact hways hway

/-- So it does if nothing is replaced but what stands at a dead end. -/
theorem Points.of_replaced {t t' : FileTree} {p : FilePath} {d d' : Location} {last last' : Text}
    (h : t.Points p d last) (hcurrent : t'.current = t.current)
    (hkept : ∀ l, l ≠ d' ++ [last'] → KeptAt t t' l) (hdead : t.DeadEnd d' last') :
    t'.Points p d last := by
  have hd := h.directory
  have hne : d ≠ d' ++ [last'] := by
    rintro rfl
    exact hdead.place hd
  exact h.of_ways hcurrent ((hkept d hne).hasDirectory hd) fun hway =>
    hway.of_replaced hkept hdead hd

theorem Points.of_kept {t t' : FileTree} {p : FilePath} {d : Location} {last : Text}
    (h : t.Points p d last) (hcurrent : t'.current = t.current) (hkept : ∀ l, KeptAt t t' l) :
    t'.Points p d last :=
  h.of_ways hcurrent ((hkept d).hasDirectory h.directory) fun hway => hway.of_kept hkept

/-- A path that points to a name finds the file that is set there, if the name was a dead end. -/
theorem lookup_of_set {t : FileTree} {p : FilePath} {d : Location} {last : Text}
    (hfault : pathFault? p.text = none) (hpoints : t.Points p d last) (hdead : t.DeadEnd d last)
    (bytes : Bytes) (mode : Nat) :
    (t.set (d ++ [last]) (.file bytes mode)).lookup true p =
      .ok (.found (d ++ [last]) (.file bytes mode)) := by
  have hne : d ++ [last] ≠ [] := by simp
  have hkept : ∀ l, l ≠ d ++ [last] →
      KeptAt t (t.set (d ++ [last]) (.file bytes mode)) l := fun l hl e he =>
    ⟨e, by rw [at?_set _ _ _ _ hne, if_neg hl, he], .refl e⟩
  have hpoints' : (t.set (d ++ [last]) (.file bytes mode)).Points p d last :=
    hpoints.of_replaced rfl hkept hdead
  exact hpoints'.lookup_file hfault (by rw [at?_set _ _ _ _ hne, if_pos rfl])

/-! ## 4. Temporary files -/

theorem absent_of_walk {t : FileTree} {b : Bool} {d : Location} {last : Text} :
    ∀ {n : Nat} {l : Location} {names : List Text},
      t.walk b n l names = .ok (.absent d last) →
        IsEntryName last ∧ t.at? (d ++ [last]) = none
  | n, l, [], h => by
    obtain ⟨e, -, hplace⟩ := found_of_walk_nil h
    exact absurd hplace (by simp)
  | n, l, name :: rest, h => by
    cases (walkStep_of_walk h).2 with
    | direct l' _ hgo => exact absent_of_walk hgo
    | along start names left _ _ hleft hgo =>
      subst hleft
      exact absent_of_walk hgo
    | stop target _ _ _ _ hplace => exact absurd hplace (by simp)
    | absent hname he _ hplace =>
      obtain ⟨rfl, rfl⟩ := Place.absent.inj hplace
      exact ⟨hname, he⟩
  termination_by n _ names => (n, names.length)

/-- A temporary file is made at a location that was free. -/
theorem absent_of_createTemp {t created : FileTree} {p : FilePath} {temp : Location}
    (h : t.createTemp p = .ok (temp, created)) :
    t.at? temp = none ∧ created = t.set temp (.file [] privateMode) ∧
      ∃ d last, temp = d ++ [last] ∧ IsEntryName last := by
  unfold createTemp at h
  generalize List.range (t.entries.length + 1) = numbers at h
  induction numbers with
  | nil => exact absurd h (by simp [createTemp.go])
  | cons number rest ih =>
    rw [createTemp.go] at h
    split at h
    · exact absurd h (by simp)
    · exact ih h
    · next d last hlookup =>
      obtain ⟨rfl, rfl⟩ := Prod.mk.inj (Except.ok.inj h)
      obtain ⟨hname, habsent⟩ := absent_of_walk (lookup_eq_ok_iff.mp hlookup).2
      exact ⟨habsent, rfl, d, last, rfl, hname⟩

/-- Where a path points is not changed by a file at a location that was free. -/
theorem points_of_set {t : FileTree} {p : FilePath} {temp d : Location} {last : Text}
    {bytes : Bytes} {mode : Nat} (habsent : t.at? temp = none)
    (htemp : ∃ d last, temp = d ++ [last] ∧ IsEntryName last)
    (h : (t.set temp (.file bytes mode)).Points p d last) : t.Points p d last := by
  obtain ⟨dir, name, rfl, hentry⟩ := htemp
  have hthere : (t.set (dir ++ [name]) (.file bytes mode)).at? (dir ++ [name]) =
      some (.file bytes mode) := by
    rw [at?_set _ _ _ _ (by simp), if_pos rfl]
  have hkept : ∀ l, l ≠ dir ++ [name] →
      KeptAt (t.set (dir ++ [name]) (.file bytes mode)) t l := fun l hl e he => by
    rw [at?_set _ _ _ _ (by simp), if_neg hl] at he
    exact ⟨e, he, .refl e⟩
  exact h.of_replaced rfl hkept (deadEnd_of_file hentry hthere)

/-- A file is moved to where a path points, unless a directory stands there. -/
theorem points_of_rename {t t' : FileTree} {l : Location} {p : FilePath}
    (h : t.rename l p = .ok t') :
    pathFault? p.text = none ∧ ∃ e d last, t.at? l = some e ∧ t.Points p d last ∧
      ¬ t.HasDirectory (d ++ [last]) ∧
        (d ++ [last] = l ∧ t' = t ∨
          d ++ [last] ≠ l ∧ t' = (t.set (d ++ [last]) e).erase l) := by
  unfold rename at h
  split at h
  · exact absurd h (by simp)
  · exact absurd h (by simp)
  next e place he hlookup =>
  split at h
  · exact absurd h (by simp)
  next hproper =>
  refine ⟨(lookup_eq_ok_iff.mp hlookup).1, e, ?_⟩
  rcases points_of_lookup hlookup (by simpa using hproper) with
    ⟨k, mode, rfl⟩ | ⟨d, last, hpoints, ⟨habsent, rfl⟩ | ⟨old, hold, rfl⟩⟩
  · exact absurd h (by simp)
  -- what is absent differs from what is moved
  · have hne : d ++ [last] ≠ l := by
      rintro rfl
      simp [habsent] at he
    have hfree : ¬ t.HasDirectory (d ++ [last]) := by
      rintro ⟨mode, hmode⟩
      simp [habsent] at hmode
    exact ⟨d, last, he, hpoints, hfree, .inr ⟨hne, (Except.ok.inj h).symm⟩⟩
  -- what is there is replaced, unless it is a directory or what is moved
  · have hplain : ¬ t.HasDirectory (d ++ [last]) := by
      rintro ⟨mode, hmode⟩
      obtain rfl := Option.some.inj (hold.symm.trans hmode)
      exact absurd h (by simp)
    refine ⟨d, last, he, hpoints, hplain, ?_⟩
    split at h
    · next hplace =>
      obtain ⟨rfl, rfl⟩ := Place.found.inj hplace
      exact absurd ⟨_, hold⟩ hplain
    · next here old' _ hplace =>
      obtain ⟨rfl, rfl⟩ := Place.found.inj hplace
      split at h
      · next hsame => exact .inl ⟨hsame, (Except.ok.inj h).symm⟩
      · next hne => exact .inr ⟨hne, (Except.ok.inj h).symm⟩
    · next hplace => exact absurd hplace (by simp)

end LintMend.FileTree
