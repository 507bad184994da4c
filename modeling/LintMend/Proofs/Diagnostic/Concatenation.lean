/-
LintMend.Proofs.Diagnostic.Concatenation — an extraction looks at each line by itself.

What a text reports is what its lines report, each parsed alone, in their order. So texts with a
line feed between them report what each of them does. The lines without the marker may be left out
beforehand or not: they report nothing. And a text reports a finding if its extraction has one.

  `findings`                       — what lines report, each parsed alone
  `findings_append`, `findings_marked` — rows of lines, and lines without the marker
  `extract_eq_findings`            — an extraction
  `extract_append_feed`            — texts with a line feed between them
-/
import LintMend.Proofs.Diagnostic.Extraction
import Mathlib.Data.List.ReduceOption

namespace LintMend.Extractor

variable {e : Extractor} {line : Text} {lines : List Text} {ds : List Diagnostic}

/-! ## 1. Rows of lines -/

/-- The diagnostics that lines report, each line parsed alone, up to the first that cannot be
used. -/
def findings (e : Extractor) (lines : List Text) : Except LineFault (List Diagnostic) :=
  (lines.mapM e.parseLine).map List.reduceOption

theorem findings_cons (e : Extractor) (line : Text) (lines : List Text) :
    e.findings (line :: lines) =
      match e.parseLine line with
      | .error fault => .error fault
      | .ok found => (e.findings lines).map (found.toList ++ ·) := by
  rw [findings, List.mapM_cons, findings]
  cases e.parseLine line with
  | error fault => rfl
  | ok found => cases lines.mapM e.parseLine <;> cases found <;> rfl

/-- A row of lines that can all be used: the first, and the others. -/
theorem of_findings_cons (h : e.findings (line :: lines) = .ok ds) : ∃ found rest,
    e.parseLine line = .ok found ∧ e.findings lines = .ok rest ∧ ds = found.toList ++ rest := by
  rw [findings_cons] at h
  cases hline : e.parseLine line with
  | error fault => simp [hline] at h
  | ok found =>
    cases hrest : e.findings lines with
    | error fault => simp [hline, hrest, Except.map] at h
    | ok rest => exact ⟨found, rest, rfl, rfl, by simpa [hline, hrest, Except.map] using h.symm⟩

/-- Rows of lines report what the one and then what the other reports. -/
theorem findings_append (e : Extractor) (xs ys : List Text) :
    e.findings (xs ++ ys) = do return (← e.findings xs) ++ (← e.findings ys) := by
  rw [findings, List.mapM_append, findings, findings]
  cases xs.mapM e.parseLine with
  | error fault => rfl
  | ok xs' =>
    cases ys.mapM e.parseLine with
    | error fault => rfl
    | ok ys' => exact congrArg Except.ok (List.reduceOption_append xs' ys')

/-! ## 2. Lines that report nothing -/

theorem parseLine_unmarked (h : e.marks line = false) : e.parseLine line = .ok none := by
  rw [parseLine, h]
  rfl

/-- An empty line has no reading, whatever the marker. -/
theorem parseLine_nil (e : Extractor) : e.parseLine [] = .ok none := by
  have hnone : ∀ {f}, e.lineFields? [] ≠ some f := by
    intro f hf
    obtain ⟨before, r, hreads, -⟩ := readFields?_reads hf
    have hblanks : r.blanks = [] := by
      have hempty : before ++ e.marker ++ r.written e.extension = [] := hreads.2.symm
      simp only [Reading.written, List.append_assoc, List.append_eq_nil_iff] at hempty
      exact hempty.2.2.1
    exact hreads.1.blanks_ne_nil hblanks
  have houtcome := parseLine_outcome e []
  generalize e.parseLine [] = result at houtcome
  cases houtcome with
  | skipped _ => rfl
  | used hfields => exact absurd hfields hnone
  | refused hexcess =>
    obtain ⟨f, hfields, -⟩ := hexcess
    exact absurd hfields hnone

/-- **Lines without the marker may be left out beforehand.** -/
theorem findings_marked (e : Extractor) (lines : List Text) :
    e.findings (lines.filter e.marks) = e.findings lines := by
  induction lines with
  | nil => rfl
  | cons line lines ih =>
    cases hmarks : e.marks line with
    | true => rw [List.filter_cons_of_pos hmarks, findings_cons, findings_cons, ih]
    | false =>
      rw [List.filter_cons_of_neg (by simp [hmarks]), ih, findings_cons, parseLine_unmarked hmarks]
      cases e.findings lines <;> rfl

/-! ## 3. Extractions -/

theorem parseLines_eq_findings (e : Extractor) (lines : List Text) :
    (e.parseLines lines).2 = e.findings lines := by
  induction lines with
  | nil => rfl
  | cons line lines ih =>
    rw [findings_cons, parseLines, ← ih]
    cases e.parseLine line with
    | error fault => rfl
    | ok found =>
      rcases e.parseLines lines with ⟨skipped, fault | ds⟩ <;> cases found <;> rfl

/-- **An extraction reports what the lines of its text report**, each parsed alone. -/
theorem extract_eq_findings (e : Extractor) (text : Text) :
    (e.extract text).2 = e.findings text.lines := by
  rw [← findings_marked, ← parseLines_eq_findings]
  unfold extract markedLines
  rcases e.parseLines (text.lines.filter e.marks) with ⟨skipped, fault | ds⟩ <;> rfl

/-- Lines report a finding if one of them does. -/
theorem anyReports_of_findings (h : e.findings lines = .ok ds) :
    e.anyReports lines = .ok (!ds.isEmpty) := by
  induction lines generalizing ds with
  | nil =>
    obtain rfl := Except.ok.inj h
    rfl
  | cons line lines ih =>
    obtain ⟨found, rest, hline, hrest, rfl⟩ := of_findings_cons h
    rw [anyReports, hline]
    cases found with
    | none => exact ih hrest
    | some d => rfl

theorem reports_of_extract {text : Text} (h : (e.extract text).2 = .ok ds) :
    e.reports text = .ok (!ds.isEmpty) := by
  rw [extract_eq_findings, ← findings_marked] at h
  exact anyReports_of_findings h

/-- The findings of lines do not notice an empty line. -/
theorem findings_nil_cons (e : Extractor) (lines : List Text) :
    e.findings ([] :: lines) = e.findings lines := by
  rw [findings_cons, parseLine_nil]
  cases e.findings lines <;> rfl

/-- **Texts with a line feed between them report what each of them does**, in order; if one of them
cannot be used, so with the same fault. An extraction reports what each line of its text reports,
lines with and without the marker alike, and a text reports a finding exactly if its extraction has
one. -/
theorem extract_append_feed (e : Extractor) (a b : Text) :
    (e.extract (a ++ "\n" ++ b)).2 = (do return (← (e.extract a).2) ++ (← (e.extract b).2)) ∧
    (e.extract a).2 = (a.lines.mapM e.parseLine).map List.reduceOption ∧
    ∀ ds, (e.extract a).2 = .ok ds → e.reports a = .ok (!ds.isEmpty) := by
  refine ⟨?_, extract_eq_findings e a, fun ds => reports_of_extract⟩
  rw [extract_eq_findings, extract_eq_findings e a, extract_eq_findings e b, ← findings_append]
  rcases Text.lines_append_feed a b with h | h
  · rw [h]
  · rw [h, findings_append, findings_nil_cons, ← findings_append]

/-- A line with a finding, and a carriage return that belongs to the line feed after it. -/
def returnedLine : Text :=
  "[ERROR] AA.java:1:2: m [R]\r"

theorem extract_returned : ∃ d, (({} : Extractor).extract returnedLine).2 = .ok [d] :=
  ⟨⟨"AA.java", 1, 2, "m", "R", "[ERROR] AA.java:1:2: m [R]", by decide, by decide, by decide⟩,
    by decide +kernel⟩

/-- The line reports its finding twice if it stands twice, with a line feed between. -/
theorem extract_append_feed_twice : ∃ d,
    (({} : Extractor).extract returnedLine).2 = .ok [d] ∧
    ({} : Extractor).reports returnedLine = .ok true ∧
    (({} : Extractor).extract (returnedLine ++ "\n" ++ returnedLine)).2 = .ok [d, d] := by
  obtain ⟨d, h⟩ := extract_returned
  obtain ⟨htwice, -, hreports⟩ := extract_append_feed {} returnedLine returnedLine
  rw [h] at htwice
  exact ⟨d, h, hreports _ h, htwice⟩

end LintMend.Extractor
