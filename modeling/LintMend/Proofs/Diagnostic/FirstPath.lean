/-
LintMend.Proofs.Diagnostic.FirstPath — which path of a line is taken when several can be read.

A message may name another place in the sources, and then the line can be read with the path up to
that place as well. The path that is taken is the shortest, with one exception: a name of a single
code point before the extension is tried last. So a shorter path is passed over exactly if, at the
marker that is used, the line can be read with a name of one code point and with a longer one.

  `readPath?_two`               — a longer name goes before a name of one code point
  `Reads.taken`                 — the path that is taken, and another that could be read
  `PassedOver`                  — a shorter path that could be read
  `parseLine_passes_over_iff`   — when there is one
  `parseLine_swallows`          — there can be one
-/
import LintMend.Proofs.Diagnostic.Extraction

namespace LintMend.Extractor

variable {e : Extractor} {extension name rest s t before line : Text} {f : Fields} {r r' : Reading}
  {d : Diagnostic}

/-! ## 1. Names -/

theorem IsName.length_pos (h : IsName name) : 1 ≤ name.length := by
  obtain ⟨c, more, rfl, -⟩ := h.exists_cons
  exact Nat.succ_le_succ (Nat.zero_le _)

/-- **A longer name goes before a name of one code point.** -/
theorem readPath?_two (h : readPath? extension (name ++ rest) = some f) (hname : IsName name)
    (hlong : 2 ≤ name.length) (hread : (readAfterName? extension name rest).isSome = true) :
    ∃ taken left, name ++ rest = taken ++ left ∧ 2 ≤ taken.length ∧
      readAfterName? extension taken left = some f := by
  obtain ⟨c, d, more, rfl⟩ : ∃ c d more, name = c :: d :: more := by
    rcases name with _ | ⟨c, _ | ⟨d, more⟩⟩
    · simp at hlong
    · simp at hlong
    · exact ⟨c, d, more, rfl⟩
  obtain ⟨hspace, hmore⟩ := isName_cons_iff.mp hname
  have hends : Ends (d :: more) := hmore.resolve_left (by simp)
  have hsearch := growName?_searched extension [c] (d :: more ++ rest)
  rw [List.cons_append] at h
  unfold readPath? at h
  dsimp only at h
  rw [hspace] at h
  cases hgrow : growName? extension [c] (d :: more ++ rest) with
  | none =>
    rw [hgrow] at hsearch
    have hnone : readAfterName? extension (c :: d :: more) rest = none :=
      hsearch (d :: more) rest rfl hends
    simp [hnone] at hread
  | some g =>
    rw [hgrow] at hsearch h
    obtain rfl : g = f := by simpa using h
    obtain ⟨left, right, hcut, hleft, hfound, -⟩ := hsearch
    refine ⟨c :: left, right, ?_, ?_, hfound⟩
    · rw [List.cons_append, hcut, List.cons_append]
    · exact Nat.succ_le_succ (List.length_pos_iff.mpr hleft.ne_nil)

/-! ## 2. Readings at one marker -/

/-- Two readings at one marker are readings of one text. -/
theorem Reads.written_eq (h : e.Reads s before r) (h' : e.Reads s before r') :
    r'.written e.extension = r.written e.extension :=
  List.append_cancel_left (h'.2.symm.trans h.2)

/-- What follows the blanks in a reading. -/
theorem Reading.Valid.stripStart_written (hr : r.Valid) (extension : Text) :
    Text.stripStart (r.written extension) = r.name ++ (extension ++ ":" ++ r.place) := by
  obtain ⟨c, more, hname, hspace⟩ := hr.name.exists_cons
  rw [Reading.written_eq, Text.stripStart_append_of_all hr.blanks, hname]
  exact Text.stripStart_cons hspace

/-- Readings at one marker begin their paths at one place. -/
theorem Reads.path_eq (h : e.Reads s before r) (h' : e.Reads s before r') :
    r'.name ++ (e.extension ++ ":" ++ r'.place) = r.name ++ (e.extension ++ ":" ++ r.place) := by
  rw [← h'.1.stripStart_written, ← h.1.stripStart_written, h.written_eq h']

/-- The shorter of two paths is the beginning of the other. -/
theorem Reads.path_prefix (h : e.Reads s before r) (h' : e.Reads s before r')
    (hlength : r'.name.length ≤ r.name.length) :
    r'.name ++ e.extension <+: r.name ++ e.extension := by
  have hother : r'.name ++ e.extension <+: r.name ++ (e.extension ++ ":" ++ r.place) := by
    rw [← h.path_eq h']
    exact ⟨":" ++ r'.place, by simp⟩
  have hown : r.name ++ e.extension <+: r.name ++ (e.extension ++ ":" ++ r.place) :=
    ⟨":" ++ r.place, by simp⟩
  exact List.prefix_of_prefix_length_le hother hown (by simpa using hlength)

/-- The name of the fields that a path is read as. -/
theorem name_of_readAfterName?
    (h : readAfterName? extension name rest = some (r.fields extension)) : name = r.name := by
  obtain ⟨place, -, hplace⟩ := readAfterName?_eq_some_iff.mp h
  obtain ⟨-, -, -, hpath, -⟩ := readPlace?_eq_some_iff.mp hplace
  exact (List.append_cancel_right hpath).symm

/-- What the path that is taken has to do with another that could be read. -/
theorem Reads.taken (h : e.Reads s before r)
    (hread : readAfterMarker? e.extension (r.written e.extension) = some (r.fields e.extension))
    (h' : e.Reads s before r') :
    (r.name.length ≤ r'.name.length ∨ r'.name.length = 1) ∧
    (2 ≤ r'.name.length → 2 ≤ r.name.length) := by
  have hpath : readPath? e.extension (r'.name ++ (e.extension ++ ":" ++ r'.place)) =
      some (r.fields e.extension) := by
    rw [← h'.1.readAfterMarker?, h.written_eq h', hread]
  have hsome : (readAfterName? e.extension r'.name (e.extension ++ ":" ++ r'.place)).isSome =
      true := by
    rw [h'.1.readAfterName?]
    rfl
  constructor
  · obtain ⟨name, rest, -, -, hname, hleast⟩ := readPath?_sound hpath
    obtain rfl := name_of_readAfterName? hname
    exact hleast r'.name _ rfl h'.1.name hsome
  · intro hlong
    obtain ⟨name, rest, -, htwo, hname⟩ := readPath?_two hpath h'.1.name hlong hsome
    obtain rfl := name_of_readAfterName? hname
    exact htwo

/-! ## 3. Shorter paths -/

/-- A path that is a proper beginning of another, ends with the extension, and could be read at the
same marker: place, message and rule follow it. -/
def PassedOver (e : Extractor) (s before file path : Text) : Prop :=
  path <+: file ∧ path ≠ file ∧ ∃ r, e.Reads s before r ∧ path = r.name ++ e.extension

theorem passedOver_iff (h : e.Reads s before r) {path : Text} :
    e.PassedOver s before (r.name ++ e.extension) path ↔
      ∃ r', e.Reads s before r' ∧ path = r'.name ++ e.extension ∧
        r'.name.length < r.name.length := by
  constructor
  · rintro ⟨hstart, hne, r', h', rfl⟩
    refine ⟨r', h', rfl, Nat.lt_of_le_of_ne ?_ fun heq => hne ?_⟩
    · simpa using hstart.length_le
    · exact hstart.eq_of_length (by simp [heq])
  · rintro ⟨r', h', rfl, hlt⟩
    refine ⟨h.path_prefix h' (Nat.le_of_lt hlt), fun heq => ?_, r', h', rfl⟩
    have hnames := congrArg List.length (List.append_cancel_right heq)
    omega

/-- **A shorter path is passed over exactly if the line can be read, at the marker that is used,
with a name of one code point and with a longer one.** It is then the one with that short name. -/
theorem parseLine_passes_over_iff (h : e.parseLine line = .ok (some d)) :
    ∃ before r, e.Reads (Text.trimEnd isLineEnd line) before r ∧
      (∀ before' r', e.Reads (Text.trimEnd isLineEnd line) before' r' →
        before.length ≤ before'.length) ∧
      d.file = r.name ++ e.extension ∧
      ((∃ path, e.PassedOver (Text.trimEnd isLineEnd line) before d.file path) ↔
        (∃ r', e.Reads (Text.trimEnd isLineEnd line) before r' ∧ r'.name.length = 1) ∧
        ∃ r', e.Reads (Text.trimEnd isLineEnd line) before r' ∧ r'.name.length ≠ 1) ∧
      ∀ path, e.PassedOver (Text.trimEnd isLineEnd line) before d.file path →
        path.length = e.extension.length + 1 := by
  obtain ⟨before, r, hreads, hleast, hread, hpath, -⟩ := reading_of_parseLine h
  have hshort : ∀ {r'}, e.Reads (Text.trimEnd isLineEnd line) before r' →
      r'.name.length < r.name.length → r'.name.length = 1 := fun h' hlt =>
    (hreads.taken hread h').1.resolve_left (Nat.not_le.mpr hlt)
  refine ⟨before, r, hreads, hleast, hpath, ?_, ?_⟩
  · simp only [hpath, passedOver_iff hreads]
    constructor
    · rintro ⟨path, r', h', rfl, hlt⟩
      have hone := hshort h' hlt
      exact ⟨⟨r', h', hone⟩, r, hreads, by omega⟩
    · rintro ⟨⟨r₁, h₁, hone⟩, r₂, h₂, hmore⟩
      have hpos := h₂.1.name.length_pos
      have htwo := (hreads.taken hread h₂).2 (by omega)
      exact ⟨_, r₁, h₁, rfl, by omega⟩
  · intro path hpassed
    rw [hpath, passedOver_iff hreads] at hpassed
    obtain ⟨r', h', rfl, hlt⟩ := hpassed
    simp [hshort h' hlt, Nat.add_comm]

/-! ## 4. A place that is swallowed -/

/-- A line whose message names a second place, after a file with a name of one letter. -/
def twoPlacesLine : Text :=
  "[ERROR] A.java:1:2: see BB.java:3:4: m [R]"

/-- Its reading with the first path. -/
def firstPlace : Reading :=
  ⟨" ", "A", "1", "2", " see BB.java:3:4: m ", "R", ""⟩

/-- Its reading with the path up to the second place. -/
def secondPlace : Reading :=
  ⟨" ", "A.java:1:2: see BB", "3", "4", " m ", "R", ""⟩

theorem reads_firstPlace :
    ({} : Extractor).Reads (Text.trimEnd isLineEnd twoPlacesLine) [] firstPlace where
  left :=
    { blanks_ne_nil := by decide, blanks := by decide
      name := ⟨⟨'A', by decide⟩, ⟨'A', by decide⟩, by decide⟩
      line := ⟨'1', "", by decide⟩, column := ⟨'2', "", by decide⟩
      text := by decide, rule_ne_nil := by decide, rule := by decide, rest := by decide }
  right := by decide

theorem reads_secondPlace :
    ({} : Extractor).Reads (Text.trimEnd isLineEnd twoPlacesLine) [] secondPlace where
  left :=
    { blanks_ne_nil := by decide, blanks := by decide
      name := ⟨⟨'A', by decide⟩, ⟨'B', by decide⟩, by decide⟩
      line := ⟨'3', "", by decide⟩, column := ⟨'4', "", by decide⟩
      text := by decide, rule_ne_nil := by decide, rule := by decide, rest := by decide }
  right := by decide

theorem parseLine_twoPlaces : ∃ d, ({} : Extractor).parseLine twoPlacesLine = .ok (some d) ∧
    d.file = "A.java:1:2: see BB.java" :=
  ⟨⟨"A.java:1:2: see BB.java", 3, 4, "m", "R", twoPlacesLine, by decide, by decide, by decide⟩,
    by decide +kernel, rfl⟩

/-- In that line the first path is passed over. -/
theorem parseLine_passes_over_iff_twoPlaces :
    ∃ d path, ({} : Extractor).parseLine twoPlacesLine = .ok (some d) ∧
      d.file = "A.java:1:2: see BB.java" ∧ path.length = 6 ∧
      ({} : Extractor).PassedOver (Text.trimEnd isLineEnd twoPlacesLine) [] d.file path := by
  obtain ⟨d, hd, hfile⟩ := parseLine_twoPlaces
  obtain ⟨before, r, -, hleast, -, hiff, hlength⟩ := parseLine_passes_over_iff hd
  obtain rfl : before = [] := List.length_eq_zero_iff.mp
    (Nat.le_zero.mp (hleast [] firstPlace reads_firstPlace))
  obtain ⟨path, hpassed⟩ := hiff.mpr
    ⟨⟨firstPlace, reads_firstPlace, rfl⟩, secondPlace, reads_secondPlace, by decide⟩
  exact ⟨d, path, hd, hfile, hlength path hpassed, hpassed⟩

/-- **A shorter path can be passed over**, and then the place after it is swallowed into the path
that is taken. -/
theorem parseLine_swallows : ¬ ∀ (line : Text) (d : Diagnostic),
    ({} : Extractor).parseLine line = .ok (some d) →
    ∀ before r, ({} : Extractor).Reads (Text.trimEnd isLineEnd line) before r →
      (∀ before' r', ({} : Extractor).Reads (Text.trimEnd isLineEnd line) before' r' →
        before.length ≤ before'.length) →
      ∀ path, ¬ ({} : Extractor).PassedOver (Text.trimEnd isLineEnd line) before d.file path := by
  intro h
  obtain ⟨d, hd, hfile⟩ := parseLine_twoPlaces
  have hstart : ("A.java" : Text) <+: d.file ∧ ("A.java" : Text) ≠ d.file := by
    rw [hfile]
    decide
  exact h twoPlacesLine d hd [] firstPlace reads_firstPlace (fun _ _ _ => Nat.zero_le _) "A.java"
    ⟨hstart.1, hstart.2, firstPlace, reads_firstPlace, rfl⟩

end LintMend.Extractor
