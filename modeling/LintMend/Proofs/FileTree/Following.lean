/-
LintMend.Proofs.FileTree.Following — following names, as a relation.

`walk` answers what is at the end of a way and hides the way itself. Here one name is a move:
`move? t l name` says where a name leads from a location, to a location or along the target of a
link. `Leads t n l names m k` says that from location `l`, with `n` links left to follow, the
names lead to location `k` with `m` links left.

  `walk_append`, `leads_of_walk` — the relation is what `walk` does before the last names
  `walk_true_eq_found_iff`       — a walk finds an entry exactly if its names lead there
  `Leads.unique`                 — names lead to one location, however many links may be followed
  `Leads.of_kept`                — what files hold does not matter to a way
  `Leads.of_replaced`            — nor does what stands at a dead end, on the way to a directory

The last one carries everything about writing. A way reads directories and links alone, so a file
that is made or changed leaves the ways as they were. A link that is replaced by a file may have
been read, but then what it leads to is a file, and no name leads on from there.
-/
import LintMend.FileTree.Lookup

namespace LintMend.FileTree

/-! ## 1. One name -/

/-- A directory stands at a location. -/
def HasDirectory (t : FileTree) (l : Location) : Prop :=
  ∃ mode, t.at? l = some (.directory mode)

/-- A name that is looked up in a directory: no step up, no step in place, and not too long. -/
def IsEntryName (name : Text) : Prop :=
  name ≠ ".." ∧ name ≠ "." ∧ nameSize name ≤ maxNameSize

/-- Where one name leads. -/
inductive Move where
  /-- To a location. -/
  | direct (l : Location)
  /-- Along the target of a link, from a location. -/
  | along (start : Location) (names : List Text)
  deriving DecidableEq, Repr

/-- Where a name leads by the entry that it names in a directory. -/
def Move.ofEntry (l : Location) (name : Text) : Entry → Move
  | .link target => .along (if Text.startsWith "/" target then [] else l) (targetNames target)
  | _ => .direct (l ++ [name])

/-- Where a name leads from a location, if it leads anywhere. -/
def move? (t : FileTree) (l : Location) (name : Text) : Option Move :=
  match t.at? l with
  | some (.directory _) =>
    if name = ".." then some (.direct l.dropLast)
    else if name = "." then some (.direct l)
    else if maxNameSize < nameSize name then none
    else (t.at? (l ++ [name])).map (Move.ofEntry l name)
  | _ => none

section OneName

variable {t : FileTree} {l : Location} {name : Text}

theorem move?_up (hl : t.HasDirectory l) : t.move? l ".." = some (.direct l.dropLast) := by
  obtain ⟨mode, hmode⟩ := hl
  simp only [move?, hmode, if_true]

theorem move?_stay (hl : t.HasDirectory l) : t.move? l "." = some (.direct l) := by
  obtain ⟨mode, hmode⟩ := hl
  have hup : ¬ ("." : Text) = ".." := by decide
  simp only [move?, hmode, hup, if_true, if_false]

theorem move?_entry {e : Entry} (hl : t.HasDirectory l) (hname : IsEntryName name)
    (he : t.at? (l ++ [name]) = some e) : t.move? l name = some (Move.ofEntry l name e) := by
  obtain ⟨mode, hmode⟩ := hl
  obtain ⟨hup, hstay, hsize⟩ := hname
  simp only [move?, hmode, hup, hstay, Nat.not_lt.mpr hsize, he, if_false, Option.map_some]

/-- A name that leads anywhere stands in a directory, and leads up, stays, or names an entry. -/
theorem move?_cases {move : Move} (h : t.move? l name = some move) :
    t.HasDirectory l ∧ (name = ".." ∧ move = .direct l.dropLast ∨ name = "." ∧ move = .direct l ∨
      IsEntryName name ∧ ∃ e, t.at? (l ++ [name]) = some e ∧ move = Move.ofEntry l name e) := by
  unfold move? at h
  split at h
  · next mode hmode =>
    refine ⟨⟨mode, hmode⟩, ?_⟩
    split at h
    · next hup => exact .inl ⟨hup, (Option.some.inj h).symm⟩
    next hup =>
    split at h
    · next hstay => exact .inr (.inl ⟨hstay, (Option.some.inj h).symm⟩)
    next hstay =>
    split at h
    · exact absurd h (by simp)
    next hsize =>
    obtain ⟨e, he, hmove⟩ := Option.map_eq_some_iff.mp h
    exact .inr (.inr ⟨⟨hup, hstay, Nat.not_lt.mp hsize⟩, e, he, hmove.symm⟩)
  · exact absurd h (by simp)

theorem directory_of_move? {move : Move} (h : t.move? l name = some move) : t.HasDirectory l :=
  (move?_cases h).1

theorem walk_nil (b : Bool) (n : Nat) {e : Entry} (h : t.at? l = some e) :
    t.walk b n l [] = .ok (.found l e) := by
  rw [walk.eq_def]
  simp only [h]

/-- Without names a walk finds what stands where it starts. -/
theorem found_of_walk_nil {b : Bool} {n : Nat} {place : Place} (h : t.walk b n l [] = .ok place) :
    ∃ e, t.at? l = some e ∧ place = .found l e := by
  rw [walk.eq_def] at h
  simp only at h
  split at h
  · next e he => exact ⟨e, he, (Except.ok.inj h).symm⟩
  · exact absurd h (by simp)

theorem walk_direct {l' : Location} (h : t.move? l name = some (.direct l')) (b : Bool) (n : Nat)
    (rest : List Text) : t.walk b n l (name :: rest) = t.walk b n l' rest := by
  obtain ⟨⟨mode, hmode⟩, hcases⟩ := move?_cases h
  rw [walk.eq_def]
  simp only [hmode]
  rcases hcases with ⟨rfl, hmove⟩ | ⟨rfl, hmove⟩ | ⟨⟨hup, hstay, hsize⟩, e, he, hmove⟩
  · rw [if_pos rfl, Move.direct.inj hmove]
  · rw [if_neg (by decide), if_pos rfl, Move.direct.inj hmove]
  · simp only [hup, hstay, Nat.not_lt.mpr hsize, he, if_false]
    cases e with
    | link target => exact absurd hmove (by simp [Move.ofEntry])
    | file bytes mode => rw [Move.direct.inj hmove]
    | directory mode => rw [Move.direct.inj hmove]

/-- A name that leads along a link names that link in a directory. -/
theorem link_of_along {start : Location} {names : List Text}
    (h : t.move? l name = some (.along start names)) : t.HasDirectory l ∧ IsEntryName name ∧
      ∃ target, t.at? (l ++ [name]) = some (.link target) ∧
        start = (if Text.startsWith "/" target then [] else l) ∧ names = targetNames target := by
  obtain ⟨hl, hcases⟩ := move?_cases h
  rcases hcases with ⟨-, hmove⟩ | ⟨-, hmove⟩ | ⟨hname, e, he, hmove⟩
  · exact absurd hmove (by simp)
  · exact absurd hmove (by simp)
  cases e with
  | link target =>
    obtain ⟨hstart, hnames⟩ := Move.along.inj hmove
    exact ⟨hl, hname, target, he, hstart, hnames⟩
  | file bytes mode => exact absurd hmove (by simp [Move.ofEntry])
  | directory mode => exact absurd hmove (by simp [Move.ofEntry])

theorem walk_along {start : Location} {names rest : List Text} {b : Bool}
    (h : t.move? l name = some (.along start names)) (hrest : rest ≠ [] ∨ b = true) (n : Nat) :
    t.walk b (n + 1) l (name :: rest) = t.walk b n start (names ++ rest) := by
  obtain ⟨⟨mode, hmode⟩, ⟨hup, hstay, hsize⟩, target, he, rfl, rfl⟩ := link_of_along h
  have hgo : ¬ (rest = [] ∧ b = false) := by
    rintro ⟨hnil, hb⟩
    rcases hrest with h | h
    · exact h hnil
    · simp [hb] at h
  rw [walk.eq_def]
  simp only [hmode, hup, hstay, Nat.not_lt.mpr hsize, he, hgo, if_false]

/-- What a walk that finds a place does with its first name. -/
inductive WalkStep (t : FileTree) (b : Bool) (n : Nat) (l : Location) (name : Text)
    (rest : List Text) (place : Place) : Prop
  | direct (l' : Location) : t.move? l name = some (.direct l') → t.walk b n l' rest = .ok place →
      WalkStep t b n l name rest place
  | along (start : Location) (names : List Text) (left : Nat) :
      t.move? l name = some (.along start names) → ¬ (rest = [] ∧ b = false) → n = left + 1 →
      t.walk b left start (names ++ rest) = .ok place → WalkStep t b n l name rest place
  /-- It stops at a link that is not to be followed. -/
  | stop (target : Text) : IsEntryName name → t.at? (l ++ [name]) = some (.link target) →
      rest = [] → b = false → place = .found (l ++ [name]) (.link target) →
      WalkStep t b n l name rest place
  | absent : IsEntryName name → t.at? (l ++ [name]) = none → rest = [] → place = .absent l name →
      WalkStep t b n l name rest place

/-- A walk that finds a place with a name starts in a directory and does one of four things. -/
theorem walkStep_of_walk {b : Bool} {n : Nat} {rest : List Text} {place : Place}
    (h : t.walk b n l (name :: rest) = .ok place) :
    t.HasDirectory l ∧ WalkStep t b n l name rest place := by
  -- the cases are those of a step of the walk, in the order in which it tests the name
  rw [walk.eq_def] at h
  simp only at h
  split at h
  · next mode hmode =>
    have hl : t.HasDirectory l := ⟨mode, hmode⟩
    refine ⟨hl, ?_⟩
    split at h
    · next hup =>
      subst hup
      exact .direct _ (move?_up hl) h
    next hup =>
    split at h
    · next hstay =>
      subst hstay
      exact .direct _ (move?_stay hl) h
    next hstay =>
    split at h
    · exact absurd h (by simp)
    next hsize =>
    have hname : IsEntryName name := ⟨hup, hstay, Nat.not_lt.mp hsize⟩
    split at h
    · next he =>
      split at h
      · next hrest => exact .absent hname he hrest (Except.ok.inj h).symm
      · exact absurd h (by simp)
    · next target he =>
      split at h
      · next hstop => exact .stop target hname he hstop.1 hstop.2 (Except.ok.inj h).symm
      next hgo =>
      split at h
      · exact absurd h (by simp)
      · next left => exact .along _ _ left (move?_entry hl hname he) hgo rfl h
    · next e hlink he =>
      refine .direct _ ?_ h
      rw [move?_entry hl hname he]
      cases e with
      | link target => exact absurd rfl (hlink target)
      | file bytes mode => rfl
      | directory mode => rfl
  · exact absurd h (by simp)
  · exact absurd h (by simp)

end OneName

/-! ## 2. Ways -/

/-- From a location, with so many links left, names lead to a location with so many links
left. -/
inductive Leads (t : FileTree) : Nat → Location → List Text → Nat → Location → Prop
  | here (n : Nat) (l : Location) : Leads t n l [] n l
  | direct {n m : Nat} {l l' k : Location} {name : Text} {rest : List Text} :
      t.move? l name = some (.direct l') → Leads t n l' rest m k → Leads t n l (name :: rest) m k
  | along {n m : Nat} {l start k : Location} {name : Text} {names rest : List Text} :
      t.move? l name = some (.along start names) → Leads t n start (names ++ rest) m k →
      Leads t (n + 1) l (name :: rest) m k

namespace Leads

variable {t : FileTree} {n m : Nat} {l k : Location} {xs ys : List Text}

/-- A way that goes on starts in a directory. -/
theorem directory (h : Leads t n l xs m k) (hxs : xs ≠ []) : t.HasDirectory l := by
  cases h with
  | here => exact absurd rfl hxs
  | direct hmove _ => exact directory_of_move? hmove
  | along hmove _ => exact directory_of_move? hmove

theorem append {p : Nat} {j : Location} (h : Leads t n l xs m k) (h' : Leads t m k ys p j) :
    Leads t n l (xs ++ ys) p j := by
  induction h with
  | here n l => exact h'
  | direct hmove _ ih => exact .direct hmove (ih h')
  | @along n m l start k name names rest hmove _ ih =>
    have hway := ih h'
    rw [List.append_assoc] at hway
    exact .along hmove hway

/-- A way through two lists of names is a way through the one and then the other. -/
theorem of_append {p : Nat} {j : Location} : ∀ {n : Nat} {l : Location} {xs : List Text},
    Leads t n l (xs ++ ys) p j → ∃ m k, Leads t n l xs m k ∧ Leads t m k ys p j
  | n, l, [], h => ⟨n, l, .here n l, h⟩
  | n, l, name :: rest, h => by
    rw [List.cons_append] at h
    cases h with
    | direct hmove h =>
      obtain ⟨m, k, h₁, h₂⟩ := of_append h
      exact ⟨m, k, .direct hmove h₁, h₂⟩
    | along hmove h =>
      rw [← List.append_assoc] at h
      obtain ⟨m, k, h₁, h₂⟩ := of_append h
      exact ⟨m, k, .along hmove h₁, h₂⟩
  termination_by n _ xs => (n, xs.length)

/-- Names lead to one location, however many links may be followed. -/
theorem unique {n' m' : Nat} {k' : Location} (h : Leads t n l xs m k)
    (h' : Leads t n' l xs m' k') : k = k' := by
  induction h generalizing n' with
  | here n l =>
    cases h'
    rfl
  | direct hmove _ ih =>
    cases h' with
    | direct hmove' h' =>
      obtain rfl := Move.direct.inj (Option.some.inj (hmove.symm.trans hmove'))
      exact ih h'
    | along hmove' h' => simp [hmove'] at hmove
  | along hmove _ ih =>
    cases h' with
    | direct hmove' h' => simp [hmove'] at hmove
    | along hmove' h' =>
      obtain ⟨rfl, rfl⟩ := Move.along.inj (Option.some.inj (hmove.symm.trans hmove'))
      exact ih h'

end Leads

/-! ## 3. Ways are what a walk goes -/

/-- A walk goes the way of its first names, and on from there. -/
theorem walk_append {t : FileTree} {n m : Nat} {l k : Location} {xs : List Text}
    (h : Leads t n l xs m k) {b : Bool} {ys : List Text} (hys : ys ≠ [] ∨ b = true) :
    t.walk b n l (xs ++ ys) = t.walk b m k ys := by
  induction h with
  | here n l => rfl
  | direct hmove _ ih => rw [List.cons_append, walk_direct hmove, ih]
  | @along n m l start k name names rest hmove _ ih =>
    have hrest : rest ++ ys ≠ [] ∨ b = true := by
      rcases hys with h | h
      · exact .inl (by simp [h])
      · exact .inr h
    rw [List.cons_append, walk_along hmove hrest, ← List.append_assoc, ih]

/-- A walk that finds a place has gone a way through all names before the last ones. -/
theorem leads_of_walk {t : FileTree} {b : Bool} {ys : List Text} {place : Place}
    (hys : ys ≠ []) : ∀ {n : Nat} {l : Location} {xs : List Text},
    t.walk b n l (xs ++ ys) = .ok place →
      ∃ m k, Leads t n l xs m k ∧ t.walk b m k ys = .ok place
  | n, l, [], h => ⟨n, l, .here n l, h⟩
  | n, l, name :: rest, h => by
    have hne : rest ++ ys ≠ [] := by simp [hys]
    rw [List.cons_append] at h
    obtain ⟨-, step⟩ := walkStep_of_walk h
    cases step with
    | direct l' hmove hgo =>
      obtain ⟨m, k, hway, hend⟩ := leads_of_walk hys hgo
      exact ⟨m, k, .direct hmove hway, hend⟩
    | along start names left hmove _ hleft hgo =>
      rw [← List.append_assoc] at hgo
      obtain ⟨m, k, hway, hend⟩ := leads_of_walk hys hgo
      subst hleft
      exact ⟨m, k, .along hmove hway, hend⟩
    | stop target _ he hrest => exact absurd hrest hne
    | absent _ he hrest => exact absurd hrest hne
  termination_by n _ xs => (n, xs.length)

/-- A walk that follows all links finds an entry only where the names lead. -/
theorem leads_of_found {t : FileTree} {e : Entry} {k : Location} :
    ∀ {n : Nat} {l : Location} {names : List Text},
      t.walk true n l names = .ok (.found k e) →
        (∃ m, Leads t n l names m k) ∧ t.at? k = some e
  | n, l, [], h => by
    obtain ⟨e', here, hplace⟩ := found_of_walk_nil h
    obtain ⟨rfl, rfl⟩ := Place.found.inj hplace
    exact ⟨⟨n, .here n _⟩, here⟩
  | n, l, name :: rest, h => by
    obtain ⟨-, step⟩ := walkStep_of_walk h
    cases step with
    | direct l' hmove hgo =>
      obtain ⟨⟨m, hway⟩, hend⟩ := leads_of_found hgo
      exact ⟨⟨m, .direct hmove hway⟩, hend⟩
    | along start names left hmove _ hleft hgo =>
      obtain ⟨⟨m, hway⟩, hend⟩ := leads_of_found hgo
      subst hleft
      exact ⟨⟨m, .along hmove hway⟩, hend⟩
    | stop target _ he hrest hb => exact absurd hb (by simp)
    | absent _ he hrest hplace => exact absurd hplace (by simp)
  termination_by n _ names => (n, names.length)

theorem walk_true_eq_found_iff {t : FileTree} {e : Entry} {k l : Location} {n : Nat}
    {names : List Text} : t.walk true n l names = .ok (.found k e) ↔
      (∃ m, Leads t n l names m k) ∧ t.at? k = some e := by
  constructor
  · exact leads_of_found
  · rintro ⟨⟨m, h⟩, he⟩
    have hwalk : t.walk true n l (names ++ []) = t.walk true m k [] := walk_append h (.inr rfl)
    rw [List.append_nil] at hwalk
    rw [hwalk, walk_nil true m he]

/-! ## 4. What a way does not read -/

/-- Entries of one kind lead the same way: files, directories, and links to one target. -/
def SameKind : Entry → Entry → Prop
  | .file .., .file .. => True
  | .directory _, .directory _ => True
  | .link target, .link target' => target = target'
  | _, _ => False

theorem SameKind.refl (e : Entry) : SameKind e e := by
  cases e <;> simp [SameKind]

theorem SameKind.ofEntry_eq {e e' : Entry} (h : SameKind e e') (l : Location) (name : Text) :
    Move.ofEntry l name e' = Move.ofEntry l name e := by
  cases e <;> cases e' <;> simp_all [SameKind, Move.ofEntry]

/-- Another tree has an entry of the same kind at a location, if there is one. -/
def KeptAt (t t' : FileTree) (l : Location) : Prop :=
  ∀ e, t.at? l = some e → ∃ e', t'.at? l = some e' ∧ SameKind e e'

theorem KeptAt.hasDirectory {t t' : FileTree} {l : Location} (h : KeptAt t t' l)
    (hl : t.HasDirectory l) : t'.HasDirectory l := by
  obtain ⟨mode, hmode⟩ := hl
  obtain ⟨e', he', hkind⟩ := h _ hmode
  cases e' with
  | directory mode' => exact ⟨mode', he'⟩
  | file bytes mode' => exact absurd hkind (by simp [SameKind])
  | link target => exact absurd hkind (by simp [SameKind])

/-- A name leads where it led unless it names an entry that has changed. -/
theorem move?_of_kept {t t' : FileTree} {l : Location} {name : Text} {move : Move}
    (hl : KeptAt t t' l) (hname : IsEntryName name → KeptAt t t' (l ++ [name]))
    (h : t.move? l name = some move) : t'.move? l name = some move := by
  obtain ⟨hdir, hcases⟩ := move?_cases h
  have hdir' := hl.hasDirectory hdir
  rcases hcases with ⟨rfl, rfl⟩ | ⟨rfl, rfl⟩ | ⟨hentry, e, he, rfl⟩
  · exact move?_up hdir'
  · exact move?_stay hdir'
  · obtain ⟨e', he', hkind⟩ := hname hentry e he
    rw [move?_entry hdir' hentry he', hkind.ofEntry_eq]

namespace Leads

variable {t t' : FileTree} {n m : Nat} {l k : Location} {xs : List Text}

/-- A way is left if each of its names leads on where it led. -/
theorem of_moves (hmoves : ∀ {l name rest n move}, t.move? l name = some move →
      Leads t n l (name :: rest) m k → t'.move? l name = some move)
    (h : Leads t n l xs m k) : Leads t' n l xs m k := by
  induction h with
  | here n l => exact .here n l
  | direct hmove hway ih => exact .direct (hmoves hmove (.direct hmove hway)) (ih hmoves)
  | along hmove hway ih => exact .along (hmoves hmove (.along hmove hway)) (ih hmoves)

/-- A tree that has all entries of another one, up to the content of files, has its ways. -/
theorem of_kept (hkept : ∀ l, KeptAt t t' l) (h : Leads t n l xs m k) : Leads t' n l xs m k :=
  h.of_moves fun hmove _ => move?_of_kept (hkept _) (fun _ => hkept _) hmove

end Leads

/-- A name in a directory is a dead end: wherever it leads, no directory stands there. -/
structure DeadEnd (t : FileTree) (d : Location) (last : Text) : Prop where
  place : ¬ t.HasDirectory (d ++ [last])
  way : ∀ {n m : Nat} {k : Location}, Leads t n d [last] m k → ¬ t.HasDirectory k

namespace Leads

variable {t t' : FileTree} {n m : Nat} {l k d : Location} {xs : List Text} {last : Text}

/-- A way to a directory does not go by a dead end: it would have to go on from where that name
leads, and names lead on from directories alone. -/
theorem avoids {name : Text} {rest : List Text} (hdead : DeadEnd t d last)
    (h : Leads t n l (name :: rest) m k) (hk : t.HasDirectory k) : l ++ [name] ≠ d ++ [last] := by
  intro heq
  obtain ⟨rfl, hname⟩ := List.append_inj' heq rfl
  obtain rfl := (List.cons.inj hname).1
  obtain ⟨q, f, h₁, h₂⟩ : ∃ q f, Leads t n l [name] q f ∧ Leads t q f rest m k := of_append h
  cases rest with
  | nil =>
    cases h₂
    exact hdead.way h₁ hk
  | cons next rest => exact hdead.way h₁ (h₂.directory (by simp))

/-- What stands at a dead end may be replaced: the ways to directories stay as they were. -/
theorem of_replaced (hkept : ∀ l, l ≠ d ++ [last] → KeptAt t t' l) (hdead : DeadEnd t d last)
    (h : Leads t n l xs m k) (hk : t.HasDirectory k) : Leads t' n l xs m k := by
  refine h.of_moves fun {l name rest n move} hmove hway => ?_
  have hl : l ≠ d ++ [last] := by
    rintro rfl
    exact hdead.place (directory_of_move? hmove)
  exact move?_of_kept (hkept _ hl) (fun _ => hkept _ (avoids hdead hway hk)) hmove

end Leads

/-- A file under a name is a dead end. -/
theorem deadEnd_of_file {t : FileTree} {d : Location} {last : Text} {bytes : Bytes} {mode : Nat}
    (hlast : IsEntryName last) (h : t.at? (d ++ [last]) = some (.file bytes mode)) :
    DeadEnd t d last := by
  have hplace : ¬ t.HasDirectory (d ++ [last]) := by
    rintro ⟨mode', hmode'⟩
    simp [h] at hmode'
  refine ⟨hplace, fun {n m k} hway => ?_⟩
  have hmove := move?_entry (hway.directory (by simp)) hlast h
  have hunique := hway.unique (.direct hmove (.here n _))
  rwa [hunique]

end LintMend.FileTree
