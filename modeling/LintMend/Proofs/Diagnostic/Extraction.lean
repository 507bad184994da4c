/-
LintMend.Proofs.Diagnostic.Extraction — what an extraction comes to.

A line with the marker is skipped, or it is a diagnostic, or its line or column number has more
digits than are read. Nothing but a number of the last kind ends an extraction. Without one, each
line with the marker is counted once: among the skipped lines, or among the diagnostics.

  `Excessive`         — a line whose line or column number has too many digits
  `parseLine_outcome` — the three things that a line can come to
  `Settled`           — lines that are all skipped or used
  `extract_settled`   — an extraction returns, or stops at the first excessive line
  `extract_stops`     — it does not always return
-/
import LintMend.Proofs.Diagnostic.Grammar
import LintMend.Proofs.Text.Lines

namespace LintMend.Extractor

variable {e : Extractor} {line : Text} {lines skipped : List Text} {ds : List Diagnostic}
  {f : Fields} {n : Nat}

/-! ## 1. Numbers with too many digits -/

/-- The number of digits of the first number that has more of them than are read. -/
def Fields.excess? (f : Fields) : Option Nat :=
  if Json.digitLimit < f.line.length then some f.line.length
  else if Json.digitLimit < f.column.length then some f.column.length
  else none

theorem Fields.excess?_eq_none_iff : f.excess? = none ↔
    f.line.length ≤ Json.digitLimit ∧ f.column.length ≤ Json.digitLimit := by
  unfold excess?
  split
  · next hlong => simp [Nat.not_le.mpr hlong]
  next hshort =>
  split
  · next hlong => simp [Nat.not_le.mpr hlong]
  · next hshort' => simp [Nat.not_lt.mp hshort, Nat.not_lt.mp hshort']

/-- Such fields are refused for that number. -/
theorem Fields.diagnostic_of_excess (h : f.excess? = some n) (raw : Text) :
    f.diagnostic raw = .error (.tooManyDigits n) := by
  unfold excess? at h
  split at h
  · next hlong =>
    have hline : readDigits f.line = .error (.tooManyDigits n) := by
      rw [readDigits, if_pos hlong, Option.some.inj h]
    simp only [Fields.diagnostic, hline]
  next hshort =>
  split at h
  · next hlong =>
    have hline : readDigits f.line = .ok f.line.digitsValue := if_neg hshort
    have hcolumn : readDigits f.column = .error (.tooManyDigits n) := by
      rw [readDigits, if_pos hlong, Option.some.inj h]
    simp only [Fields.diagnostic, hline, hcolumn]
  · exact absurd h (by simp)

/-- The fields of a line of output. -/
def lineFields? (e : Extractor) (line : Text) : Option Fields :=
  e.readFields? (Text.trimEnd isLineEnd line)

/-- A line is read with a line or column number of so many digits, and these are too many. -/
def Excessive (e : Extractor) (line : Text) (n : Nat) : Prop :=
  ∃ f, e.lineFields? line = some f ∧ f.excess? = some n

/-- The digits of an excessive number stand in the line. -/
theorem Excessive.run (h : e.Excessive line n) : Json.digitLimit < n ∧
    ∃ run, run <:+: line ∧ (∀ c ∈ run, c.isDigit = true) ∧ run.length = n := by
  obtain ⟨f, hf, hexcess⟩ := h
  obtain ⟨before, r, hreads, rfl, -⟩ := readFields?_reads hf
  obtain ⟨hline, hcolumn⟩ := hreads.numbers
  unfold Fields.excess? at hexcess
  split at hexcess
  · next hlong =>
    obtain rfl := Option.some.inj hexcess
    exact ⟨hlong, _, hline, hreads.1.line.digits, rfl⟩
  split at hexcess
  · next hlong =>
    obtain rfl := Option.some.inj hexcess
    exact ⟨hlong, _, hcolumn, hreads.1.column.digits, rfl⟩
  · exact absurd hexcess (by simp)

/-! ## 2. One line -/

/-- A line reports no finding: there is no reading of it. -/
def Unreadable (e : Extractor) (line : Text) : Prop :=
  ∀ before r, ¬ e.Reads (Text.trimEnd isLineEnd line) before r

/-- What a line can come to. -/
inductive LineOutcome (e : Extractor) (line : Text) : Except LineFault (Option Diagnostic) → Prop
  | skipped : e.Unreadable line → LineOutcome e line (.ok none)
  | used {f : Fields} {d : Diagnostic} : e.lineFields? line = some f → f.excess? = none →
      f.diagnostic line.strip = .ok d → LineOutcome e line (.ok (some d))
  | refused {n : Nat} : e.Excessive line n → LineOutcome e line (.error (.tooManyDigits n))

/-- **A line is skipped, used, or refused for too many digits.** -/
theorem parseLine_outcome (e : Extractor) (line : Text) :
    e.LineOutcome line (e.parseLine line) := by
  cases hmarks : e.marks line with
  | false =>
    have hparse : e.parseLine line = .ok none := by simp [parseLine, hmarks]
    rw [hparse]
    exact .skipped fun before r hreads => by simp [hreads.marks] at hmarks
  | true =>
    cases hfields : e.lineFields? line with
    | none =>
      have hparse : e.parseLine line = .ok none := by
        rw [lineFields?] at hfields
        simp only [parseLine, hmarks, hfields, if_true]
      rw [hparse]
      exact .skipped fun before r => not_reads hfields
    | some f =>
      have hparse : e.parseLine line = (f.diagnostic line.strip).map some := by
        rw [lineFields?] at hfields
        simp only [parseLine, hmarks, hfields, if_true]
        cases f.diagnostic line.strip <;> rfl
      rw [hparse]
      cases hexcess : f.excess? with
      | some n =>
        rw [Fields.diagnostic_of_excess hexcess]
        exact .refused ⟨f, hfields, hexcess⟩
      | none =>
        obtain ⟨before, r, hreads, rfl, -⟩ := readFields?_reads hfields
        obtain ⟨hline, hcolumn⟩ := Fields.excess?_eq_none_iff.mp hexcess
        obtain ⟨d, hd, -⟩ := hreads.1.diagnostic hline hcolumn e.extension line.strip
        rw [hd]
        exact .used hfields hexcess hd

/-- A line that is used is read from parts that start as far to the left as any, and its diagnostic
is made of them. -/
theorem reading_of_parseLine {d : Diagnostic} (h : e.parseLine line = .ok (some d)) :
    ∃ before r, e.Reads (Text.trimEnd isLineEnd line) before r ∧
      (∀ before' r', e.Reads (Text.trimEnd isLineEnd line) before' r' →
        before.length ≤ before'.length) ∧
      readAfterMarker? e.extension (r.written e.extension) = some (r.fields e.extension) ∧
      d.file = r.name ++ e.extension ∧ d.message = r.text.strip ∧ d.rule = r.rule := by
  have houtcome := parseLine_outcome e line
  rw [h] at houtcome
  cases houtcome with
  | used hfields hexcess hd =>
    obtain ⟨before, r, hreads, rfl, hleast, hread⟩ := readFields?_reads hfields
    obtain ⟨hline, hcolumn⟩ := Fields.excess?_eq_none_iff.mp hexcess
    obtain ⟨d', hd', hfile, -, -, hmessage, hrule, -⟩ :=
      hreads.1.diagnostic hline hcolumn e.extension line.strip
    obtain rfl := Except.ok.inj (hd.symm.trans hd')
    exact ⟨before, r, hreads, hleast, hread, hfile, hmessage, hrule⟩

/-! ## 3. All lines -/

/-- Lines that are all settled: each is one of the skipped lines, or it is one of the diagnostics,
in the order of the lines. -/
inductive Settled (e : Extractor) : List Text → List Text → List Diagnostic → Prop
  | none : Settled e [] [] []
  | skipped {line : Text} {lines skipped : List Text} {ds : List Diagnostic} :
      e.Unreadable line → Settled e lines skipped ds →
      Settled e (line :: lines) (line :: skipped) ds
  | used {line : Text} {lines skipped : List Text} {f : Fields} {d : Diagnostic}
      {ds : List Diagnostic} : e.lineFields? line = some f → f.diagnostic line.strip = .ok d →
      Settled e lines skipped ds → Settled e (line :: lines) skipped (d :: ds)

/-- No line is lost and none is counted twice. -/
theorem Settled.length (h : e.Settled lines skipped ds) :
    ds.length + skipped.length = lines.length := by
  induction h with
  | none => rfl
  | skipped _ _ ih =>
    simp only [List.length_cons]
    omega
  | used _ _ _ ih =>
    simp only [List.length_cons]
    omega

/-- An excessive line, and none before it. -/
def FirstExcessive (e : Extractor) (lines : List Text) (n : Nat) : Prop :=
  ∃ before line after, lines = before ++ line :: after ∧ (∀ l ∈ before, ∀ m, ¬ e.Excessive l m) ∧
    e.Excessive line n

theorem FirstExcessive.cons (hline : ∀ m, ¬ e.Excessive line m) (h : e.FirstExcessive lines n) :
    e.FirstExcessive (line :: lines) n := by
  obtain ⟨before, l, after, rfl, hbefore, hl⟩ := h
  exact ⟨line :: before, l, after, rfl, List.forall_mem_cons.mpr ⟨hline, hbefore⟩, hl⟩

/-- What lines can come to. -/
inductive LinesOutcome (e : Extractor) (lines : List Text) :
    List Text × Except LineFault (List Diagnostic) → Prop
  | settled {skipped : List Text} {ds : List Diagnostic} : e.Settled lines skipped ds →
      (∀ line ∈ lines, ∀ n, ¬ e.Excessive line n) → LinesOutcome e lines (skipped, .ok ds)
  | stopped {skipped : List Text} {n : Nat} : e.FirstExcessive lines n →
      LinesOutcome e lines (skipped, .error (.tooManyDigits n))

theorem Unreadable.not_excessive (h : e.Unreadable line) (n : Nat) : ¬ e.Excessive line n := by
  rintro ⟨f, hf, -⟩
  obtain ⟨before, r, hreads, -⟩ := readFields?_reads hf
  exact h before r hreads

/-- **Lines are all settled, or stopped at the first excessive one.** -/
theorem parseLines_outcome (e : Extractor) (lines : List Text) :
    e.LinesOutcome lines (e.parseLines lines) := by
  induction lines with
  | nil => exact .settled .none (by simp)
  | cons line lines ih =>
    have hline := parseLine_outcome e line
    unfold parseLines
    generalize e.parseLine line = result at hline
    generalize e.parseLines lines = rest at ih
    cases hline with
    | refused hexcess => exact .stopped ⟨[], line, lines, rfl, by simp, hexcess⟩
    | skipped hunread =>
      cases ih with
      | settled hrest hshort =>
        exact .settled (.skipped hunread hrest)
          (List.forall_mem_cons.mpr ⟨hunread.not_excessive, hshort⟩)
      | stopped hfirst => exact .stopped (hfirst.cons hunread.not_excessive)
    | @used f d hfields hexcess hd =>
      have hline : ∀ n, ¬ e.Excessive line n := by
        rintro n ⟨f', hf', hexcess'⟩
        obtain rfl := Option.some.inj (hfields.symm.trans hf')
        exact absurd (hexcess.symm.trans hexcess') (by simp)
      cases ih with
      | settled hrest hshort =>
        exact .settled (.used hfields hd hrest) (List.forall_mem_cons.mpr ⟨hline, hshort⟩)
      | stopped hfirst => exact .stopped (hfirst.cons hline)

/-- **An extraction returns unless a line with the marker has a number with too many digits.** If it
returns each of these lines is a diagnostic or skipped, and the counts in the log are right. If not,
it stops at the first such number. -/
theorem extract_settled (e : Extractor) (text : Text) :
    ((∀ line ∈ e.markedLines text, ∀ n, ¬ e.Excessive line n) ∧
      ∃ skipped ds, e.Settled (e.markedLines text) skipped ds ∧
        ds.length + skipped.length = (e.markedLines text).length ∧
        e.extract text =
          (skipped.map (fun line =>
              .lineSkipped (Text.preview (some Text.previewLimit) line.strip)) ++
            [.diagnosticsExtracted ds.length skipped.length (fileCount ds)], .ok ds)) ∨
    ∃ n, e.FirstExcessive (e.markedLines text) n ∧ Json.digitLimit < n ∧
      (∃ line ∈ e.markedLines text, ∃ run, run <:+: line ∧ (∀ c ∈ run, c.isDigit = true) ∧
        run.length = n) ∧
      (e.extract text).2 = .error (.tooManyDigits n) := by
  have houtcome := parseLines_outcome e (e.markedLines text)
  unfold extract
  generalize e.parseLines (e.markedLines text) = result at houtcome
  cases houtcome with
  | settled hsettled hshort =>
    exact .inl ⟨hshort, _, _, hsettled, hsettled.length, rfl⟩
  | stopped hfirst =>
    refine .inr ⟨_, hfirst, ?_⟩
    obtain ⟨before, line, after, hlines, -, hexcess⟩ := hfirst
    obtain ⟨hlong, run, hrun⟩ := hexcess.run
    exact ⟨hlong, ⟨line, by simp [hlines], run, hrun⟩, rfl⟩

/-! ## 4. A line that stops an extraction -/

/-- A line of output with a line number of so many digits. -/
def oversizedLine (n : Nat) : Text :=
  "[ERROR] AA.java:" ++ List.replicate n ('1' : CodePoint) ++ ":1: m [R]"

/-- Its parts after the marker. -/
def oversizedReading (n : Nat) : Reading :=
  ⟨" ", ['A', 'A'], List.replicate n '1', "1", " m ", "R", ""⟩

theorem oversizedLine_eq (n : Nat) :
    oversizedLine n = "[ERROR]" ++ (oversizedReading n).written ".java" := by
  simp [oversizedLine, oversizedReading, Reading.written, Text.ofString]

theorem valid_oversized (hn : 0 < n) : (oversizedReading n).Valid := by
  refine ⟨?_, ?_, ⟨⟨'A', rfl, by decide⟩, ⟨'A', rfl, by decide⟩, ?_⟩, ?line,
    ⟨'1', [], rfl, by decide, by decide⟩, ?_, ?_, ?_, ?_⟩
  case line =>
    obtain ⟨m, rfl⟩ := Nat.exists_eq_succ_of_ne_zero hn.ne'
    refine ⟨'1', List.replicate m '1', rfl, by decide, fun c hc => ?_⟩
    rw [List.eq_of_mem_replicate hc]
    decide
  all_goals
    simp only [oversizedReading]
    decide

/-- The path of the line is found at once, and with it the number. -/
theorem readFields?_oversized (hn : 0 < n) : ({} : Extractor).readFields? (oversizedLine n) =
    some ((oversizedReading n).fields ".java") := by
  have hvalid := valid_oversized hn
  have hgrow : growName? ".java" ['A'] ('A' :: (".java" ++ ":" ++ (oversizedReading n).place)) =
      some ((oversizedReading n).fields ".java") :=
    growName?_of_some (by decide) (hvalid.readAfterName? ".java")
  have hpath : readPath? ".java" ('A' :: 'A' :: (".java" ++ ":" ++ (oversizedReading n).place)) =
      some ((oversizedReading n).fields ".java") := by
    have hspace : ('A' : CodePoint).isSpace = false := by decide
    simp only [readPath?, hspace, hgrow, Bool.false_eq_true, if_false]
  rw [oversizedLine_eq]
  exact readFields?_of_some ((readHere?_written {} (oversizedReading n)).trans
    ((hvalid.readAfterMarker? ".java").trans hpath))

theorem excessive_oversized (h : Json.digitLimit < n) :
    ({} : Extractor).Excessive (oversizedLine n) n := by
  have htrim : Text.trimEnd isLineEnd (oversizedLine n) = oversizedLine n := by
    have hend : oversizedLine n = "[ERROR] AA.java:" ++ List.replicate n ('1' : CodePoint) ++
        ":1: m [R" ++ ([(']' : CodePoint)] : Text) := by
      simp [oversizedLine, Text.ofString]
    rw [hend]
    exact Text.trimEnd_concat (by decide)
  have hlength : ((oversizedReading n).fields ".java").line.length = n := List.length_replicate
  refine ⟨(oversizedReading n).fields ".java", ?_, ?_⟩
  · rw [lineFields?, htrim]
    exact readFields?_oversized (Nat.zero_lt_of_lt h)
  · rw [Fields.excess?, hlength, if_pos h]

/-- The line is the only one of its output. -/
theorem markedLines_oversized (n : Nat) :
    ({} : Extractor).markedLines (oversizedLine n) = [oversizedLine n] := by
  have hunbroken : ∀ c ∈ oversizedLine n, c.isLineBreak = false := by
    have hdigit : ('1' : CodePoint).isLineBreak = false := by decide
    have hstart : ∀ c ∈ Text.ofString "[ERROR] AA.java:", c.isLineBreak = false := by decide
    have hend : ∀ c ∈ Text.ofString ":1: m [R]", c.isLineBreak = false := by decide
    rw [oversizedLine, List.forall_mem_append, List.forall_mem_append]
    exact ⟨⟨hstart, fun c hc => List.eq_of_mem_replicate hc ▸ hdigit⟩, hend⟩
  have hmarks : ({} : Extractor).marks (oversizedLine n) = true :=
    Text.contains_iff.mpr ⟨[], (oversizedReading n).written ".java", (oversizedLine_eq n).symm⟩
  have hne : oversizedLine n ≠ [] := by simp [oversizedLine, Text.ofString]
  rw [markedLines, Text.lines_line hunbroken, if_neg hne, List.filter_cons_of_pos hmarks,
    List.filter_nil]

/-- **An extraction need not return.** -/
theorem extract_stops : ¬ ∀ (e : Extractor) (text : Text), ∃ ds, (e.extract text).2 = .ok ds := by
  intro h
  obtain ⟨ds, hds⟩ := h {} (oversizedLine 4301)
  have houtcome := parseLines_outcome {} (({} : Extractor).markedLines (oversizedLine 4301))
  rw [extract] at hds
  generalize ({} : Extractor).parseLines _ = result at houtcome hds
  cases houtcome with
  | settled _ hshort =>
    have hexcess := excessive_oversized (n := 4301) (by decide)
    exact hshort _ (by simp [markedLines_oversized]) _ hexcess
  | stopped _ => exact absurd hds (by simp)

end LintMend.Extractor
