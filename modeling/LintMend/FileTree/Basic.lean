/-
LintMend.FileTree.Basic — files, directories and links.

A tree of files is a list of entries under their locations. What counts is the entry at each
location; the order of the list only records what was made first.

  `Location`, `Entry`, `FileTree` — names from the root on, what may stand there, the whole
  `at?`, `set`, `erase`        — the entry at a location, and the two ways to change it
  `at?_set`, `at?_erase`    — what the changes do to the view `at?`
-/
import LintMend.Utf8

namespace LintMend

/-- The names on the way from the root. -/
abbrev Location := List Text

/-- What stands at a location. -/
inductive Entry where
  | file (bytes : Bytes) (mode : Nat)
  | directory (mode : Nat)
  | link (target : Text)
  deriving DecidableEq, Repr

/-- The permission bits of an entry. -/
def Entry.mode : Entry → Nat
  | file _ mode => mode
  | directory mode => mode
  | link _ => 0o777

/-- Whether an entry is a file. -/
def Entry.isFile : Entry → Bool
  | file .. => true
  | _ => false

/-- Whether an entry is a directory. -/
def Entry.isDirectory : Entry → Bool
  | directory _ => true
  | _ => false

/-- A tree of files, seen from a current directory. -/
structure FileTree where
  current : Location
  entries : List (Location × Entry)
  deriving DecidableEq, Repr

namespace FileTree

/-- The permission bits of a new directory. -/
def directoryMode : Nat := 0o755

/-- The permission bits of a new file. -/
def fileMode : Nat := 0o644

/-- The permission bits of a file that only its owner may read. -/
def privateMode : Nat := 0o600

/-- The entry of a list at a location. -/
def find (l : Location) : List (Location × Entry) → Option Entry
  | [] => none
  | (k, e) :: rest => if k = l then some e else find l rest

/-- The entry at a location; the root is always a directory. -/
def at? (t : FileTree) (l : Location) : Option Entry :=
  if l = [] then some (.directory directoryMode) else find l t.entries

/-- Put an entry into a list: in place of the entry at its location, or at the end. -/
def place (l : Location) (e : Entry) : List (Location × Entry) → List (Location × Entry)
  | [] => [(l, e)]
  | (k, old) :: rest => if k = l then (l, e) :: rest else (k, old) :: place l e rest

/-- Put an entry at a location. -/
def set (t : FileTree) (l : Location) (e : Entry) : FileTree :=
  { t with entries := place l e t.entries }

/-- Take the entry at a location away. -/
def erase (t : FileTree) (l : Location) : FileTree :=
  { t with entries := t.entries.filter (·.1 ≠ l) }

theorem find_place (l m : Location) (e : Entry) (es : List (Location × Entry)) :
    find m (place l e es) = if m = l then some e else find m es := by
  induction es with
  | nil => simp [place, find, eq_comm]
  | cons head rest ih =>
    obtain ⟨k, old⟩ := head
    by_cases hk : k = l
    · subst hk
      by_cases hm : k = m
      · subst hm; simp [place, find]
      · have hm' : ¬ m = k := fun h => hm h.symm
        simp [place, find, hm, hm']
    · by_cases hm : k = m
      · subst hm; simp [place, find, hk]
      · simp [place, find, hk, hm, ih]

theorem find_filter_ne (l m : Location) (es : List (Location × Entry)) :
    find m (es.filter (·.1 ≠ l)) = if m = l then none else find m es := by
  induction es with
  | nil => simp [find]
  | cons head rest ih =>
    obtain ⟨k, e⟩ := head
    by_cases hk : k = l
    · subst hk
      by_cases hm : m = k
      · subst hm; simpa using ih
      · have hm' : ¬ k = m := fun h => hm h.symm
        simpa [find, hm, hm'] using ih
    · by_cases hm : k = m
      · subst hm; simp [find, hk]
      · simpa [find, hk, hm] using ih

/-- The view after a change: the new entry at its location, the old ones elsewhere. -/
theorem at?_set (t : FileTree) (l m : Location) (e : Entry) (hl : l ≠ []) :
    (t.set l e).at? m = if m = l then some e else t.at? m := by
  unfold at? set
  by_cases hm : m = []
  · subst hm; simp [Ne.symm hl]
  · simp [hm, find_place]

/-- The view after a removal: nothing at the location, the old entries elsewhere. -/
theorem at?_erase (t : FileTree) (l m : Location) (hl : l ≠ []) :
    (t.erase l).at? m = if m = l then none else t.at? m := by
  unfold at? erase
  by_cases hm : m = []
  · subst hm; simp [Ne.symm hl]
  · simpa [hm] using find_filter_ne l m t.entries

end FileTree

end LintMend
