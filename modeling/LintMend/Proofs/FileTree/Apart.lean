/-
LintMend.Proofs.FileTree.Apart — a file that is set under one path, seen from another.

A path names two entries at most: the one that it points to, links at its end not followed, and
the one that it leads to. Two paths are apart if no file and no link is named by both. A write
under the one then does nothing to the other: all ways of the other path go where they went, or
are stuck where they were stuck.

  `Names`, `Apart`  — what a path names, and paths with nothing in common
  `Opens`           — a path leads to a file, and the spot at which a write sets one
  `Opens.leads_set`, `Opens.leads_of_set` — ways, there and back
  `Opens.walk_set`  — walks, with their errors
  `Opens.opens_set`, `Opens.apart_set`    — what is left of the other paths

What a way cannot tell apart any more are two errors of names that go on after a file. A link at
the spot may lead to its file over many more links, so that names behind it fail because there are
too many of them; once the file stands there itself, the same names fail because it is no
directory.
-/
import LintMend.Proofs.FileTree.Replacement

namespace LintMend.FileTree

/-! ## 1. What a path names -/

/-- A path names the entry that it points to and the one that it leads to, however many links
there are on the way. -/
inductive Names (t : FileTree) (p : FilePath) : Location → Prop
  | pointed {d : Location} {last : Text} : t.Points p d last → Names t p (d ++ [last])
  | reached {n m : Nat} {k : Location} : Leads t n (t.start p) p.names m k → Names t p k

/-- Two paths are apart if no file and no link is named by both. -/
def Apart (t : FileTree) (p q : FilePath) : Prop :=
  ∀ l, t.Names p l → t.Names q l → t.at? l = none ∨ t.HasDirectory l

theorem Apart.symm {t : FileTree} {p q : FilePath} (h : t.Apart p q) : t.Apart q p :=
  fun l hq hp => h l hp hq

/-- A path leads to a file. A write under the path sets a file at the spot: in place of that file,
or of the link to which the path points. -/
structure Opens (t : FileTree) (p : FilePath) (spot file : Location) : Prop where
  reached : ∃ n m, Leads t n (t.start p) p.names m file
  isFile : ∃ bytes mode, t.at? file = some (.file bytes mode)
  spot : spot = file ∨ ∃ d last, t.Points p d last ∧ spot = d ++ [last]

theorem not_directory_of_file {t : FileTree} {l : Location} {bytes : Bytes} {mode : Nat}
    (h : t.at? l = some (.file bytes mode)) : ¬ t.HasDirectory l := by
  rintro ⟨mode', hmode'⟩
  exact absurd (h.symm.trans hmode') (by simp)

/-- A name that leads from a directory to a file, and not up, names that file or a link. -/
theorem entry_of_leads {t : FileTree} {n m : Nat} {d file : Location} {last : Text}
    (hup : last ≠ "..") (h : Leads t n d [last] m file) (hfile : ¬ t.HasDirectory file) :
    IsEntryName last ∧ ∃ e, t.at? (d ++ [last]) = some e ∧ ¬ t.HasDirectory (d ++ [last]) := by
  have hdir := h.directory (by simp)
  obtain ⟨hname, e, he⟩ : IsEntryName last ∧ ∃ e, t.at? (d ++ [last]) = some e := by
    cases h with
    | direct hmove hend =>
      rcases (move?_cases hmove).2 with ⟨h, -⟩ | ⟨-, hstay⟩ | ⟨hname, e, he, -⟩
      · exact absurd h hup
      -- a name that stays leads to the directory itself, and that is no file
      · obtain rfl := Move.direct.inj hstay
        cases hend
        exact absurd hdir hfile
      · exact ⟨hname, e, he⟩
    | along hmove _ =>
      rcases (move?_cases hmove).2 with ⟨h, -⟩ | ⟨-, hstay⟩ | ⟨hname, e, he, -⟩
      · exact absurd h hup
      · exact absurd hstay (by simp)
      · exact ⟨hname, e, he⟩
  refine ⟨hname, e, he, ?_⟩
  rintro ⟨mode, hmode⟩
  have hmove := move?_entry hdir hname hmode
  have hsame := h.unique (.direct hmove (.here n _))
  exact hfile (hsame ▸ ⟨mode, hmode⟩)

namespace Opens

variable {t : FileTree} {p : FilePath} {spot file : Location}

theorem plain_file (h : t.Opens p spot file) : ¬ t.HasDirectory file := by
  obtain ⟨bytes, mode, hfile⟩ := h.isFile
  exact not_directory_of_file hfile

theorem names_file (h : t.Opens p spot file) : t.Names p file := by
  obtain ⟨n, m, hway⟩ := h.reached
  exact .reached hway

theorem names_spot (h : t.Opens p spot file) : t.Names p spot := by
  rcases h.spot with rfl | ⟨d, last, hpoints, rfl⟩
  · exact h.names_file
  · exact .pointed hpoints

/-- The last name of the path leads from where it stands to the file. -/
theorem leads_last (h : t.Opens p spot file) {d : Location} {last : Text}
    (hpoints : t.Points p d last) : ∃ n m, Leads t n d [last] m file := by
  obtain ⟨n, m, hway⟩ := h.reached
  obtain ⟨-, -, init, m', hnames, hinit⟩ := hpoints
  rw [hnames] at hway
  obtain ⟨q, d', hinit', hlast⟩ := hway.of_append
  obtain rfl := hinit.unique hinit'
  exact ⟨q, m, hlast⟩

/-- There is a file or a link at the spot. -/
theorem entry (h : t.Opens p spot file) :
    ∃ e, t.at? spot = some e ∧ ¬ t.HasDirectory spot := by
  rcases h.spot with rfl | ⟨d, last, hpoints, rfl⟩
  · obtain ⟨bytes, mode, hfile⟩ := h.isFile
    exact ⟨_, hfile, not_directory_of_file hfile⟩
  · obtain ⟨n, m, hlast⟩ := h.leads_last hpoints
    exact (entry_of_leads hpoints.name.1 hlast h.plain_file).2

theorem plain (h : t.Opens p spot file) : ¬ t.HasDirectory spot :=
  h.entry.choose_spec.2

theorem ne_nil (h : t.Opens p spot file) : spot ≠ [] := by
  rintro rfl
  exact h.plain ⟨directoryMode, by simp [at?]⟩

/-- A name that names the spot leads to the file. -/
theorem leads_spot (h : t.Opens p spot file) {l : Location} {name : Text}
    (hl : t.HasDirectory l) (hname : IsEntryName name) (hspot : l ++ [name] = spot) :
    ∃ n m, Leads t n l [name] m file := by
  rcases h.spot with rfl | ⟨d, last, hpoints, rfl⟩
  · obtain ⟨bytes, mode, hfile⟩ := h.isFile
    have hmove := move?_entry hl hname (hspot ▸ hfile)
    subst hspot
    exact ⟨0, 0, .direct hmove (.here 0 _)⟩
  · obtain ⟨rfl, hlast⟩ := List.append_inj' hspot rfl
    obtain rfl := (List.cons.inj hlast).1
    exact h.leads_last hpoints

end Opens

/-! ## 2. The ways of other paths -/

/-- A change at one location keeps what stands at all others. -/
theorem kept_set {t : FileTree} {spot l : Location} {e : Entry} (hspot : spot ≠ [])
    (hl : l ≠ spot) : KeptAt t (t.set spot e) l ∧ KeptAt (t.set spot e) t l := by
  have hsame : (t.set spot e).at? l = t.at? l := by rw [at?_set _ _ _ _ hspot, if_neg hl]
  constructor
  · intro old hold
    exact ⟨old, hsame.trans hold, .refl old⟩
  · intro old hold
    exact ⟨old, hsame.symm.trans hold, .refl old⟩

/-- With a file set at a location a name leads where it led, or it names that file. -/
theorem move?_of_set {t : FileTree} {spot l : Location} {name : Text} {move : Move} {bytes : Bytes}
    {mode : Nat} (hspot : spot ≠ [])
    (h : (t.set spot (.file bytes mode)).move? l name = some move) : t.HasDirectory l ∧
      (t.move? l name = some move ∨
        IsEntryName name ∧ l ++ [name] = spot ∧ move = .direct spot) := by
  have hthere : (t.set spot (.file bytes mode)).at? spot = some (.file bytes mode) := by
    rw [at?_set _ _ _ _ hspot, if_pos rfl]
  have hdir := directory_of_move? h
  have hl : l ≠ spot := fun hsame => not_directory_of_file hthere (hsame ▸ hdir)
  have hkept := (kept_set (t := t) (e := .file bytes mode) hspot hl).2
  refine ⟨hkept.hasDirectory hdir, ?_⟩
  by_cases hnames : IsEntryName name ∧ l ++ [name] = spot
  · obtain ⟨hname, rfl⟩ := hnames
    exact .inr ⟨hname, rfl, Option.some.inj (h.symm.trans (move?_entry hdir hname hthere))⟩
  · exact .inl (move?_of_kept hkept
      (fun hname => (kept_set hspot fun hsame => hnames ⟨hname, hsame⟩).2) h)

namespace Opens

variable {t : FileTree} {p : FilePath} {spot file : Location} {n m : Nat} {l k : Location}
  {xs : List Text} {bytes : Bytes} {mode : Nat}

theorem at?_spot (h : t.Opens p spot file) (e : Entry) : (t.set spot e).at? spot = some e := by
  rw [at?_set _ _ _ _ h.ne_nil, if_pos rfl]

theorem at?_set_of_ne (h : t.Opens p spot file) (e : Entry) (hl : l ≠ spot) :
    (t.set spot e).at? l = t.at? l := by
  rw [at?_set _ _ _ _ h.ne_nil, if_neg hl]

theorem plain_set (h : t.Opens p spot file) :
    ¬ (t.set spot (.file bytes mode)).HasDirectory spot :=
  not_directory_of_file (h.at?_spot _)

/-- Ways that do not end at the file go where they went. -/
theorem leads_set (h : t.Opens p spot file) (e : Entry) (hway : Leads t n l xs m k)
    (hk : k ≠ file) : Leads (t.set spot e) n l xs m k := by
  refine hway.of_moves fun {l name rest n move} hmove hway => ?_
  have hdir := directory_of_move? hmove
  have hl : l ≠ spot := fun hsame => h.plain (hsame ▸ hdir)
  refine move?_of_kept (kept_set h.ne_nil hl).1 (fun hname => ?_) hmove
  refine (kept_set h.ne_nil fun hspot => ?_).1
  -- The name leads to the file, and from there no names lead on.
  obtain ⟨q, f, hfirst, hrest⟩ :
      ∃ q f, Leads t n l [name] q f ∧ Leads t q f rest m k := Leads.of_append hway
  obtain ⟨n', m', hfile⟩ := h.leads_spot hdir hname hspot
  obtain rfl := hfirst.unique hfile
  cases rest with
  | nil =>
    cases hrest
    exact hk rfl
  | cons next rest => exact h.plain_file (hrest.directory (by simp))

/-- A way in the changed tree was there before, or it ends at the spot and led to the file. -/
theorem leads_of_set (h : t.Opens p spot file)
    (hway : Leads (t.set spot (.file bytes mode)) n l xs m k) :
    Leads t n l xs m k ∨ k = spot ∧ ∃ n' m', Leads t n' l xs m' file := by
  induction hway with
  | here n l => exact .inl (.here n l)
  | @direct n m l l' k name rest hmove hrest ih =>
    obtain ⟨hdir, hsame | ⟨hname, hspot, hmove'⟩⟩ := move?_of_set h.ne_nil hmove
    · rcases ih with hway | ⟨rfl, n', m', hway⟩
      · exact .inl (.direct hsame hway)
      · exact .inr ⟨rfl, n', m', .direct hsame hway⟩
    · obtain rfl := Move.direct.inj hmove'
      cases rest with
      | nil =>
        cases hrest
        exact .inr ⟨rfl, h.leads_spot hdir hname hspot⟩
      | cons next rest => exact absurd (hrest.directory (by simp)) h.plain_set
  | @along n m l start k name names rest hmove hrest ih =>
    obtain ⟨-, hsame | ⟨-, -, hmove'⟩⟩ := move?_of_set h.ne_nil hmove
    · rcases ih with hway | ⟨rfl, n', m', hway⟩
      · exact .inl (.along hsame hway)
      · exact .inr ⟨rfl, n' + 1, m', .along hsame hway⟩
    · exact absurd hmove' (by simp)

end Opens

/-! ## 3. Walks and their errors -/

/-- The errors of names that go on after a file: no directory, or too many links before it. -/
def IsStuck (e : Errno) : Prop :=
  e = .notDirectory ∨ e = .tooManyLinks

/-- Two walks end alike: at one place, or stuck both, or at the spot the second. The first is at
the spot, too, then, unless it has to follow a link there. -/
inductive SameEnd (spot : Location) (b : Bool) : Except Errno Place → Except Errno Place → Prop
  | same (r : Except Errno Place) : SameEnd spot b r r
  | stuck {e e' : Errno} : IsStuck e → IsStuck e' → SameEnd spot b (.error e) (.error e')
  | there {r : Except Errno Place} (e' : Entry) : (b = false → ∃ e, r = .ok (.found spot e)) →
      SameEnd spot b r (.ok (.found spot e'))

/-- Names do not lead on from what is no directory. -/
theorem walk_of_plain {t : FileTree} {l : Location} {e : Entry} (h : t.at? l = some e)
    (hl : ¬ t.HasDirectory l) (b : Bool) (n : Nat) (name : Text) (rest : List Text) :
    t.walk b n l (name :: rest) = .error .notDirectory := by
  rw [walk.eq_def]
  cases e with
  | directory mode => exact absurd ⟨mode, h⟩ hl
  | file bytes mode => simp only [h]
  | link target => simp only [h]

/-- A link on the way is not followed if there are no links left. -/
theorem walk_along_zero {t : FileTree} {l start : Location} {name : Text} {names rest : List Text}
    (h : t.move? l name = some (.along start names)) (hrest : rest ≠ []) (b : Bool) :
    t.walk b 0 l (name :: rest) = .error .tooManyLinks := by
  obtain ⟨⟨mode, hmode⟩, ⟨hup, hstay, hsize⟩, target, he, -⟩ := link_of_along h
  rw [walk.eq_def]
  simp only [hmode, hup, hstay, Nat.not_lt.mpr hsize, he, hrest, if_false, false_and]

/-- A walk that does not follow the last name finds what that name names. -/
theorem walk_false_last {t : FileTree} {l : Location} {name : Text} {e : Entry}
    (hl : t.HasDirectory l) (hname : IsEntryName name) (he : t.at? (l ++ [name]) = some e)
    (n : Nat) : t.walk false n l [name] = .ok (.found (l ++ [name]) e) := by
  have hmove := move?_entry hl hname he
  cases e with
  | file bytes mode => rw [walk_direct hmove, walk_nil false n he]
  | directory mode => rw [walk_direct hmove, walk_nil false n he]
  | link target =>
    obtain ⟨mode, hmode⟩ := hl
    obtain ⟨hup, hstay, hsize⟩ := hname
    rw [walk.eq_def]
    simp only [hmode, hup, hstay, Nat.not_lt.mpr hsize, he, if_false, and_self, if_true]

/-- A walk on names that go on after a file is stuck, with however many links it starts. -/
theorem stuck_of_leads {t : FileTree} {n m : Nat} {l k : Location} {xs rest : List Text}
    {e : Entry} (h : Leads t n l xs m k) (hk : ¬ t.HasDirectory k) (he : t.at? k = some e)
    (hrest : rest ≠ []) (b : Bool) (left : Nat) :
    ∃ error, t.walk b left l (xs ++ rest) = .error error ∧ IsStuck error := by
  induction h generalizing left with
  | here n l =>
    obtain ⟨name, rest, rfl⟩ := List.exists_cons_of_ne_nil hrest
    exact ⟨_, walk_of_plain he hk b left name rest, .inl rfl⟩
  | direct hmove _ ih =>
    rw [List.cons_append, walk_direct hmove]
    exact ih hk he left
  | along hmove _ ih =>
    rw [List.cons_append]
    cases left with
    | zero => exact ⟨_, walk_along_zero hmove (by simp [hrest]) b, .inr rfl⟩
    | succ left =>
      rw [walk_along hmove (.inl (by simp [hrest])), ← List.append_assoc]
      exact ih hk he left

namespace Opens

variable {t : FileTree} {p : FilePath} {spot file : Location}

/-- A walk by way of the spot ends alike before and after a file is set there. -/
theorem walk_by_spot (h : t.Opens p spot file) (bytes : Bytes) (mode : Nat) {l : Location}
    {name : Text} (b : Bool) (n : Nat) (rest : List Text) (hl : t.HasDirectory l)
    (hname : IsEntryName name) (hspot : l ++ [name] = spot) :
    SameEnd spot b (t.walk b n l (name :: rest))
      ((t.set spot (.file bytes mode)).walk b n l (name :: rest)) := by
  obtain ⟨n', m', hway⟩ := h.leads_spot hl hname hspot
  obtain ⟨old, hold, -⟩ := h.entry
  have hne : l ≠ spot := fun hsame => h.plain (hsame ▸ hl)
  have hl' := (kept_set (e := .file bytes mode) h.ne_nil hne).1.hasDirectory hl
  have hthere := h.at?_spot (.file bytes mode)
  subst hspot
  rw [walk_direct (move?_entry hl' hname hthere)]
  cases rest with
  | nil =>
    rw [walk_nil b n hthere]
    refine .there _ fun hb => ⟨old, ?_⟩
    rw [hb, walk_false_last hl hname hold]
  | cons next rest =>
    obtain ⟨_, _, hfile⟩ := h.isFile
    obtain ⟨e, he, hstuck⟩ :=
      stuck_of_leads hway h.plain_file hfile (List.cons_ne_nil next rest) b n
    rw [List.singleton_append] at he
    rw [he, walk_of_plain hthere h.plain_set]
    exact .stuck hstuck (.inl rfl)

/-- Walks end alike before and after a file is set at the spot. -/
theorem walk_set (h : t.Opens p spot file) (bytes : Bytes) (mode : Nat) (b : Bool) :
    ∀ (n : Nat) (l : Location) (names : List Text), SameEnd spot b (t.walk b n l names)
      ((t.set spot (.file bytes mode)).walk b n l names)
  -- the recursion is that of the walk: each step leaves fewer links or fewer names
  | n, l, [] => by
    by_cases hl : l = spot
    · subst hl
      obtain ⟨old, hold, -⟩ := h.entry
      rw [walk_nil b n hold, walk_nil b n (h.at?_spot _)]
      exact .there _ fun _ => ⟨old, rfl⟩
    · rw [walk.eq_def, walk.eq_def (t.set spot _)]
      simp only [h.at?_set_of_ne _ hl]
      exact .same _
  | n, l, name :: rest => by
    by_cases hl : l = spot
    -- names after the file lead nowhere, whatever is in it
    · subst hl
      obtain ⟨old, hold, hplain⟩ := h.entry
      rw [walk_of_plain hold hplain, walk_of_plain (h.at?_spot _) h.plain_set]
      exact .same _
    by_cases hspot : t.HasDirectory l ∧ IsEntryName name ∧ l ++ [name] = spot
    · exact h.walk_by_spot bytes mode b n rest hspot.1 hspot.2.1 hspot.2.2
    rw [walk.eq_def, walk.eq_def (t.set spot _)]
    simp only [h.at?_set_of_ne _ hl]
    rcases hthere : t.at? l with _ | ⟨_ | mode' | _⟩
    · exact .same _
    · exact .same _
    · simp only
      split
      · exact walk_set h bytes mode b n l.dropLast rest
      next hup =>
      split
      · exact walk_set h bytes mode b n l rest
      next hstay =>
      split
      · exact .same _
      next hsize =>
      -- the name names an entry other than the spot, and that is the same in both trees
      have hne : l ++ [name] ≠ spot := fun hsame =>
        hspot ⟨⟨mode', hthere⟩, ⟨hup, hstay, Nat.not_lt.mp hsize⟩, hsame⟩
      rw [h.at?_set_of_ne _ hne]
      rcases t.at? (l ++ [name]) with _ | ⟨_ | _ | target⟩
      · exact .same _
      · exact walk_set h bytes mode b n (l ++ [name]) rest
      · exact walk_set h bytes mode b n (l ++ [name]) rest
      · simp only
        split
        · exact .same _
        cases n with
        | zero => exact .same _
        | succ left => exact walk_set h bytes mode b left _ (targetNames target ++ rest)
    · exact .same _
  termination_by n _ names => (n, names.length)

/-- A path is looked up alike before and after. -/
theorem lookup_set (h : t.Opens p spot file) (bytes : Bytes) (mode : Nat) (b : Bool)
    (q : FilePath) :
    (t.set spot (.file bytes mode)).lookup b q = t.lookup b q ∨
    (∃ e e', IsStuck e ∧ IsStuck e' ∧ t.lookup b q = .error (.system e) ∧
      (t.set spot (.file bytes mode)).lookup b q = .error (.system e')) ∨
    ∃ e', (t.set spot (.file bytes mode)).lookup b q = .ok (.found spot e') ∧
      (b = false → ∃ e, t.lookup b q = .ok (.found spot e)) := by
  unfold lookup
  split
  · exact .inl rfl
  have hend := h.walk_set bytes mode b maxLinks
    (if q.isAbsolute then [] else t.current) q.names
  change _ ∨ _
  simp only [set] at hend ⊢
  generalize t.walk b maxLinks _ q.names = r at hend ⊢
  generalize walk _ b maxLinks _ q.names = r' at hend ⊢
  cases hend with
  | same r => exact .inl rfl
  | stuck he he' => exact .inr (.inl ⟨_, _, he, he', rfl, rfl⟩)
  | there e' hr =>
    refine .inr (.inr ⟨e', rfl, fun hb => ?_⟩)
    obtain ⟨e, rfl⟩ := hr hb
    exact ⟨e, rfl⟩

end Opens

/-! ## 4. What is left of other paths -/

namespace Opens

variable {t : FileTree} {p q r : FilePath} {spot file l d : Location} {last : Text}
  {bytes : Bytes} {mode : Nat}

theorem points_set (h : t.Opens p spot file) (e : Entry) (hq : t.Points q d last) :
    (t.set spot e).Points q d last := by
  obtain ⟨hname, hdir, init, m, hnames, hway⟩ := hq
  have hspot : d ≠ spot := fun hsame => h.plain (hsame ▸ hdir)
  have hfile : d ≠ file := fun hsame => h.plain_file (hsame ▸ hdir)
  exact ⟨hname, (kept_set h.ne_nil hspot).1.hasDirectory hdir, init, m, hnames,
    h.leads_set e hway hfile⟩

theorem points_of_set (h : t.Opens p spot file)
    (hq : (t.set spot (.file bytes mode)).Points q d last) : t.Points q d last := by
  obtain ⟨hname, hdir, init, m, hnames, hway⟩ := hq
  have hspot : d ≠ spot := fun hsame => h.plain_set (hsame ▸ hdir)
  rcases h.leads_of_set hway with hway' | ⟨hsame, -⟩
  · exact ⟨hname, (kept_set h.ne_nil hspot).2.hasDirectory hdir, init, m, hnames, hway'⟩
  · exact absurd hsame hspot

/-- Paths apart from the changed one name neither its spot nor its file. -/
theorem not_names (h : t.Opens p spot file) (hq : t.Apart p q) :
    ¬ t.Names q spot ∧ ¬ t.Names q file := by
  constructor
  · intro hspot
    obtain ⟨e, he, hplain⟩ := h.entry
    rcases hq spot h.names_spot hspot with hnone | hdir
    · exact absurd (hnone.symm.trans he) (by simp)
    · exact hplain hdir
  · intro hfile
    obtain ⟨_, _, he⟩ := h.isFile
    rcases hq file h.names_file hfile with hnone | hdir
    · exact absurd (hnone.symm.trans he) (by simp)
    · exact h.plain_file hdir

/-- The changed path and those apart from it name nothing new. -/
theorem names_of_set (h : t.Opens p spot file) (hq : p = q ∨ t.Apart p q)
    (hl : (t.set spot (.file bytes mode)).Names q l) : t.Names q l := by
  cases hl with
  | pointed hpoints => exact .pointed (h.points_of_set hpoints)
  | reached hway =>
    rcases h.leads_of_set hway with hway' | ⟨rfl, n, m, hfile⟩
    · exact .reached hway'
    · rcases hq with rfl | hq
      · exact h.names_spot
      · exact absurd (.reached hfile) (h.not_names hq).2

/-- Paths that were apart are apart afterwards. -/
theorem apart_set (h : t.Opens p spot file) (hq : p = q ∨ t.Apart p q)
    (hr : p = r ∨ t.Apart p r) (hqr : t.Apart q r) :
    (t.set spot (.file bytes mode)).Apart q r := by
  intro l hlq hlr
  have hold := hqr l (h.names_of_set hq hlq) (h.names_of_set hr hlr)
  have hl : l ≠ spot := by
    rintro rfl
    obtain ⟨e, he, hplain⟩ := h.entry
    rcases hold with hnone | hdir
    · exact absurd (hnone.symm.trans he) (by simp)
    · exact hplain hdir
  rcases hold with hnone | hdir
  · exact .inl ((h.at?_set_of_ne _ hl).trans hnone)
  · exact .inr ((kept_set h.ne_nil hl).1.hasDirectory hdir)

/-- A path that led to a file leads there afterwards, and its spot is where it was. -/
theorem opens_set {spot' file' : Location} (h : t.Opens p spot file) (hq : t.Apart p q)
    (h' : t.Opens q spot' file') (e : Entry) : (t.set spot e).Opens q spot' file' := by
  obtain ⟨hspot, hfile⟩ := h.not_names hq
  obtain ⟨n, m, hway⟩ := h'.reached
  have hne : file' ≠ file := fun hsame => hfile (hsame ▸ h'.names_file)
  have hne' : file' ≠ spot := fun hsame => hspot (hsame ▸ h'.names_file)
  refine ⟨⟨n, m, h.leads_set e hway hne⟩, ?_, ?_⟩
  · rw [h.at?_set_of_ne e hne']
    exact h'.isFile
  · exact h'.spot.imp_right fun ⟨d, last, hpoints, hd⟩ => ⟨d, last, h.points_set e hpoints, hd⟩

/-- A path apart from the changed one leads where it led, or is stuck before and after. -/
theorem lookup_true_set (h : t.Opens p spot file) (hq : t.Apart p q) (bytes : Bytes)
    (mode : Nat) : (t.set spot (.file bytes mode)).lookup true q = t.lookup true q ∨
    ∃ e e', IsStuck e ∧ IsStuck e' ∧ t.lookup true q = .error (.system e) ∧
      (t.set spot (.file bytes mode)).lookup true q = .error (.system e') := by
  rcases h.lookup_set bytes mode true q with hsame | hstuck | ⟨e', hnew, -⟩
  · exact .inl hsame
  · exact .inr hstuck
  · obtain ⟨⟨m, hway⟩, -⟩ := walk_true_eq_found_iff.mp (lookup_eq_ok_iff.mp hnew).2
    exact absurd (h.names_of_set (.inr hq) (.reached hway)) (h.not_names hq).1

theorem found_set (h : t.Opens p spot file) (hq : t.Apart p q) {e : Entry}
    (hl : t.lookup true q = .ok (.found l e)) (bytes : Bytes) (mode : Nat) :
    (t.set spot (.file bytes mode)).lookup true q = .ok (.found l e) := by
  rcases h.lookup_true_set hq bytes mode with hsame | ⟨e, e', -, -, hold, -⟩
  · exact hsame.trans hl
  · exact absurd (hold.symm.trans hl) (by simp)

theorem isFile_set (h : t.Opens p spot file) (hq : t.Apart p q) (bytes : Bytes) (mode : Nat) :
    (t.set spot (.file bytes mode)).isFile q = t.isFile q := by
  unfold FileTree.isFile leadsTo stat
  rcases h.lookup_true_set hq bytes mode with hsame | ⟨e, e', he, he', hold, hnew⟩
  · rw [hsame]
  · rw [hold, hnew]
    rcases he with rfl | rfl <;> rcases he' with rfl | rfl <;> rfl

/-! ## 5. Temporary files -/

theorem length_place {l : Location} {e old : Entry} {es : List (Location × Entry)}
    (h : find l es = some old) : (place l e es).length = es.length := by
  induction es with
  | nil => exact absurd h (by simp [find])
  | cons head rest ih =>
    obtain ⟨k, e'⟩ := head
    by_cases hk : k = l
    · simp [place, hk]
    · rw [find, if_neg hk] at h
      simp [place, hk, ih h]

theorem length_set (h : t.Opens p spot file) (e : Entry) :
    (t.set spot e).entries.length = t.entries.length := by
  obtain ⟨old, hold, -⟩ := h.entry
  rw [at?, if_neg h.ne_nil] at hold
  exact length_place hold

/-- A temporary file is made in the same place before and after, or cannot be made for the same
reason, or because names go on after a file. -/
theorem createTemp_set (h : t.Opens p spot file) (q : FilePath) (bytes : Bytes) (mode : Nat) :
    (∃ temp made made', t.createTemp q = .ok (temp, made) ∧
      (t.set spot (.file bytes mode)).createTemp q = .ok (temp, made')) ∨
    (∃ fault, t.createTemp q = .error fault ∧
      (t.set spot (.file bytes mode)).createTemp q = .error fault) ∨
    ∃ e e', IsStuck e ∧ IsStuck e' ∧ t.createTemp q = .error (.system e) ∧
      (t.set spot (.file bytes mode)).createTemp q = .error (.system e') := by
  unfold createTemp
  rw [h.length_set]
  have hpath : (t.set spot (.file bytes mode)).absolutePath q.parent =
    t.absolutePath q.parent := rfl
  rw [hpath]
  generalize t.absolutePath q.parent = directory
  generalize List.range (t.entries.length + 1) = numbers
  induction numbers with
  | nil => exact .inr (.inl ⟨_, rfl, rfl⟩)
  | cons number rest ih =>
    simp only [createTemp.go]
    rcases h.lookup_set bytes mode false
        (directory.join ⟨.relative, [tempName q.name number]⟩) with
      hsame | ⟨e, e', he, he', hold, hnew⟩ | ⟨e', hnew, hold⟩
    · rw [hsame]
      rcases t.lookup false (directory.join ⟨.relative, [tempName q.name number]⟩) with
        fault | ⟨_ | ⟨d, name⟩⟩
      · exact .inr (.inl ⟨fault, rfl, rfl⟩)
      · exact ih
      · exact .inl ⟨_, _, _, rfl, rfl⟩
    · rw [hold, hnew]
      exact .inr (.inr ⟨e, e', he, he', rfl, rfl⟩)
    · obtain ⟨e, hold⟩ := hold rfl
      rw [hold, hnew]
      exact ih

end Opens

/-! ## 6. Different files -/

/-- A spot belongs to one file. -/
theorem Opens.file_unique {t : FileTree} {p q : FilePath} {spot file file' : Location}
    (h : t.Opens p spot file) (h' : t.Opens q spot file') : file = file' := by
  rcases h'.spot with rfl | ⟨d, last, hpoints, rfl⟩
  · rcases h.spot with rfl | ⟨d, last, hpoints, rfl⟩
    · rfl
    · obtain ⟨_, _, hlast⟩ := h.leads_last hpoints
      obtain ⟨_, _, hlast'⟩ := h'.leads_spot hpoints.directory hpoints.name rfl
      exact hlast.unique hlast'
  · obtain ⟨_, _, hlast⟩ := h.leads_spot hpoints.directory hpoints.name rfl
    obtain ⟨_, _, hlast'⟩ := h'.leads_last hpoints
    exact hlast.unique hlast'

/-- All that a path to a file names are spots of it. -/
theorem opens_of_names {t : FileTree} {p : FilePath} {l k : Location} {bytes : Bytes} {mode : Nat}
    (h : t.lookup true p = .ok (.found k (.file bytes mode))) (hl : t.Names p l) :
    t.Opens p l k := by
  obtain ⟨⟨m, hway⟩, hthere⟩ := walk_true_eq_found_iff.mp (lookup_eq_ok_iff.mp h).2
  refine ⟨⟨_, m, hway⟩, ⟨bytes, mode, hthere⟩, ?_⟩
  cases hl with
  | pointed hpoints => exact .inr ⟨_, _, hpoints, rfl⟩
  | reached hway' => exact .inl (hway'.unique hway)

/-- **Paths that lead to different files are apart.** -/
theorem apart_of_found {t : FileTree} {p q : FilePath} {k k' : Location} {bytes bytes' : Bytes}
    {mode mode' : Nat} (hp : t.lookup true p = .ok (.found k (.file bytes mode)))
    (hq : t.lookup true q = .ok (.found k' (.file bytes' mode'))) (hne : k ≠ k') :
    t.Apart p q := by
  intro l hlp hlq
  have hsame := (opens_of_names hp hlp).file_unique (opens_of_names hq hlq)
  exact absurd hsame hne

end LintMend.FileTree
