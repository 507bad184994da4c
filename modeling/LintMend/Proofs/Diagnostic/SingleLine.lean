/-
LintMend.Proofs.Diagnostic.SingleLine — a finding stands on one line of output.

A diagnostic that an extraction reports is read from one line of the output. Its path, message and
rule are pieces of that line, so they hold no line break, whatever the marker and the extension are;
and its path ends with the extension.

  `read_of_extract`       — the line that a diagnostic is read from, and the reading
  `SingleLine`            — a diagnostic without line breaks
  `singleLine_of_extract` — every diagnostic that is extracted is one
  `file_of_extract`       — how its path ends
-/
import LintMend.Proofs.Diagnostic.Concatenation

namespace LintMend

/-- No part of a diagnostic holds a line break. -/
structure Diagnostic.SingleLine (d : Diagnostic) : Prop where
  file : ∀ c ∈ d.file, c.isLineBreak = false
  message : ∀ c ∈ d.message, c.isLineBreak = false
  rule : ∀ c ∈ d.rule, c.isLineBreak = false

namespace Extractor

variable {e : Extractor} {line text : Text} {lines : List Text} {ds : List Diagnostic}
  {d : Diagnostic}

/-! ## 1. The line of a diagnostic -/

/-- Each finding of some lines is reported by one of them. -/
theorem exists_line_of_findings (h : e.findings lines = .ok ds) (hd : d ∈ ds) :
    ∃ line ∈ lines, e.parseLine line = .ok (some d) := by
  induction lines generalizing ds with
  | nil =>
    obtain rfl := Except.ok.inj h
    exact nomatch hd
  | cons line lines ih =>
    obtain ⟨found, rest, hline, hrest, rfl⟩ := of_findings_cons h
    rcases List.mem_append.mp hd with hfound | hmore
    · obtain rfl := Option.mem_toList.mp hfound
      exact ⟨line, List.mem_cons_self, hline⟩
    · obtain ⟨other, hother, hparse⟩ := ih hrest hmore
      exact ⟨other, List.mem_cons_of_mem _ hother, hparse⟩

/-- A diagnostic is made of a line and its parts. -/
structure ReadFrom (e : Extractor) (line : Text) (r : Reading) (d : Diagnostic) : Prop where
  reads : ∃ before, e.Reads (Text.trimEnd isLineEnd line) before r
  file : d.file = r.name ++ e.extension
  message : d.message = r.text.strip
  rule : d.rule = r.rule

theorem read_of_parseLine (h : e.parseLine line = .ok (some d)) : ∃ r, e.ReadFrom line r d := by
  obtain ⟨before, r, hreads, -, -, hfile, hmessage, hrule⟩ := reading_of_parseLine h
  exact ⟨r, ⟨before, hreads⟩, hfile, hmessage, hrule⟩

/-- **Every diagnostic that is extracted is read from a line of the text.** -/
theorem read_of_extract (h : (e.extract text).2 = .ok ds) (hd : d ∈ ds) :
    ∃ line ∈ text.lines, ∃ r, e.ReadFrom line r d := by
  rw [extract_eq_findings] at h
  obtain ⟨line, hline, hparse⟩ := exists_line_of_findings h hd
  exact ⟨line, hline, read_of_parseLine hparse⟩

/-! ## 2. Parts of a line -/

theorem strip_within (t : Text) : t.strip <:+: t := by
  obtain ⟨w, z, ht, -⟩ := Text.strip_cut t
  exact ⟨w, z, ht.symm⟩

/-- Path, message and rule stand in the line. -/
theorem ReadFrom.within {r : Reading} (h : e.ReadFrom line r d) :
    d.file <:+: line ∧ d.message <:+: line ∧ d.rule <:+: line := by
  obtain ⟨before, -, hwritten⟩ := h.reads
  have hpart : ∀ front part back : Text, Text.trimEnd isLineEnd line = front ++ part ++ back →
      part <:+: line := by
    intro front part back hsplit
    have hstands : part <:+: Text.trimEnd isLineEnd line := ⟨front, back, hsplit.symm⟩
    exact hstands.trans (Text.trimEnd_prefix isLineEnd line).isInfix
  have hfile : r.name ++ e.extension <:+: line := by
    apply hpart (before ++ e.marker ++ r.blanks) _ (":" ++ r.place)
    rw [hwritten, Reading.written_eq]
    simp
  have htext : r.text <:+: line := by
    apply hpart (before ++ e.marker ++ r.blanks ++ r.name ++ e.extension ++ ":" ++ r.line ++ ":" ++
      r.column ++ ":") _ ("[" ++ r.rule ++ "]" ++ r.rest)
    rw [hwritten]
    simp [Reading.written]
  have hrule : r.rule <:+: line := by
    apply hpart (before ++ e.marker ++ r.blanks ++ r.name ++ e.extension ++ ":" ++ r.line ++ ":" ++
      r.column ++ ":" ++ r.text ++ "[") _ ("]" ++ r.rest)
    rw [hwritten]
    simp [Reading.written]
  rw [h.file, h.message, h.rule]
  exact ⟨hfile, (strip_within r.text).trans htext, hrule⟩

/-! ## 3. Extracted diagnostics -/

/-- **A diagnostic that is extracted holds no line break**, whatever marker and extension are. -/
theorem singleLine_of_extract (h : (e.extract text).2 = .ok ds) (hd : d ∈ ds) : d.SingleLine := by
  obtain ⟨line, hline, r, hread⟩ := read_of_extract h hd
  obtain ⟨hfile, hmessage, hrule⟩ := hread.within
  have hunbroken := Text.isLineBreak_of_mem_lines hline
  exact ⟨fun c hc => hunbroken c (hfile.subset hc), fun c hc => hunbroken c (hmessage.subset hc),
    fun c hc => hunbroken c (hrule.subset hc)⟩

/-- **Its path ends with the extension**, and more than the extension. -/
theorem file_of_extract (h : (e.extract text).2 = .ok ds) (hd : d ∈ ds) :
    ∃ name, name ≠ [] ∧ d.file = name ++ e.extension := by
  obtain ⟨line, -, r, hread⟩ := read_of_extract h hd
  obtain ⟨before, hvalid, -⟩ := hread.reads
  refine ⟨r.name, ?_, hread.file⟩
  intro hnil
  obtain ⟨c, hc, -⟩ := hvalid.name.1
  simp [hnil] at hc

end Extractor

end LintMend
