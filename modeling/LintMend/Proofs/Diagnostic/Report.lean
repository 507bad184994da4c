/-
LintMend.Proofs.Diagnostic.Report — the lines of source code that a report shows.

Below each finding a report shows the lines around it, each in a row with its number and with a mark
if it is the line of the finding. The lines go through a text: the window joins them, and the report
cuts it apart again. Nothing is lost on the way but an empty line at the lower end, whose row is
missing. If that is the line of the finding, no row is marked.

  `rowOf`, `rowsOf`            — the rows for lines of a text
  `numberedLines_linesBetween` — numbered lines are these rows
  `filter_rowsOf`              — the one that is marked
  `findingReport_of_read`      — the report of a finding in a file that can be read
  `report_shows_lines`         — the whole report, and when no line is missing in it
  `report_skips_line`          — a line that is missing
-/
import LintMend.Diagnostic.Report
import LintMend.Proofs.SourceFiles.Window
import LintMend.Proofs.Text.Numeral
import Mathlib

namespace LintMend

open SourceFiles

variable {content : Text} {first last marked number : Nat}

/-! ## 1. Rows -/

/-- The row for a line of a text: a mark, the number, and the line. -/
def rowOf (content : Text) (marked number : Nat) : Text :=
  let mark : Text := if number = marked then ">" else " "
  mark ++ alignRight numberWidth (Text.ofNat number) ++ " | " ++ content.lines[number - 1]?.getD []

/-- The rows for the lines of a text from one number to another. -/
def rowsOf (content : Text) (marked first last : Nat) : List Text :=
  (List.range' first (last + 1 - first)).map (rowOf content marked)

theorem numberedLine_eq {line : Text} (hline : content.lines[number - 1]? = some line) :
    numberedLine (some (marked : Int)) number line = rowOf content marked number := by
  have hmark : some (marked : Int) = some (number : Int) ↔ number = marked := by
    rw [Option.some_inj, Int.natCast_inj]
    exact eq_comm
  simp only [numberedLine, rowOf, hline, Option.getD_some, hmark]
  rfl

/-- **Numbered lines are rows**, each with the number and the text of its line. -/
theorem numberedLines_linesBetween (hfirst : 1 ≤ first) (hlast : last ≤ content.lines.length) :
    numberedLines (some (marked : Int)) first (linesBetween content first last) =
      rowsOf content marked first last := by
  rw [linesBetween, rowsOf]
  generalize hcount : last + 1 - first = count
  have hend : 0 < count → first + count ≤ content.lines.length + 1 := by omega
  clear hcount hlast
  -- on the number of lines: the first of them gives the first row, and the rest start one later
  induction count generalizing first with
  | zero => simp [numberedLines]
  | succ count ih =>
    have hthere : first - 1 < content.lines.length := by omega
    have hnext : first - 1 + 1 = first + 1 - 1 := by omega
    have hrest := @ih (first + 1) (by omega) (by omega)
    rw [List.drop_eq_getElem_cons hthere, List.take_succ_cons, numberedLines, List.range'_succ,
      List.map_cons, numberedLine_eq (List.getElem?_eq_getElem hthere), hnext]
    exact congrArg _ hrest

/-- A row stands on one line. -/
theorem feed_not_mem_rowOf (content : Text) (marked number : Nat) :
    ('\n' : CodePoint) ∉ rowOf content marked number := by
  have hnumber : ('\n' : CodePoint) ∉ Text.ofNat number := by
    intro h
    exact absurd (Text.isDigit_of_mem_ofNat h) (by decide)
  have hline : ('\n' : CodePoint) ∉ content.lines[number - 1]?.getD [] := by
    cases hget : content.lines[number - 1]? with
    | none => simp
    | some line =>
      intro h
      have hmem := List.mem_of_getElem? hget
      exact absurd (Text.isLineBreak_of_mem_lines hmem _ h) (by decide)
  have hmark : ('\n' : CodePoint) ∉ (if number = marked then ">" else " " : Text) := by
    split <;> decide
  have hblank : ('\n' : CodePoint) ≠ ' ' := by decide
  have hbar : ('\n' : CodePoint) ∉ (" | " : Text) := by decide
  simp [rowOf, alignRight, hnumber, hline, hmark, hblank, hbar]

/-- A row is marked if its line is the marked one. -/
theorem startsWith_rowOf :
    Text.startsWith ">" (rowOf content marked number) = (number == marked) := by
  rw [rowOf]
  split
  · rename_i h
    rw [h, beq_self_eq_true]
    rfl
  · rename_i h
    rw [beq_false_of_ne h]
    rfl

/-- **One row is marked**, if the marked line is among those shown, and no other. -/
theorem filter_rowsOf (hfirst : first ≤ marked) :
    (rowsOf content marked first last).filter (Text.startsWith ">") =
      if marked ≤ last then [rowOf content marked marked] else [] := by
  have hkept : Text.startsWith ">" ∘ rowOf content marked = (· == marked) :=
    funext fun _ => startsWith_rowOf
  rw [rowsOf, List.filter_map, hkept, List.filter_beq, List.count_range_1']
  by_cases hlast : marked ≤ last
  · have hin : first ≤ marked ∧ marked < first + (last + 1 - first) := by omega
    rw [if_pos hlast, if_pos hin]
    rfl
  · have hout : ¬ (first ≤ marked ∧ marked < first + (last + 1 - first)) := by omega
    rw [if_neg hlast, if_neg hout]
    rfl

/-- The rows up to a line, and the row of that line. -/
theorem rowsOf_succ (hle : first ≤ last) (hlast : 1 ≤ last) :
    rowsOf content marked first last =
      rowsOf content marked first (last - 1) ++ [rowOf content marked last] := by
  have hcount : last + 1 - first = last - 1 + 1 - first + 1 := by omega
  have hnumber : first + (last - 1 + 1 - first) = last := by omega
  rw [rowsOf, rowsOf, hcount, List.range'_1_concat, List.map_append, hnumber]
  rfl

/-! ## 2. The rows below a finding -/

/-- The report of a finding with given rows: its place and its rule, and the rows below. -/
def blockOf (d : Diagnostic) (rows : List Text) : Text :=
  asLines ([] :: (d.location ++ " [" ++ d.rule ++ "]") :: rows)

/-- The first of the lines around a line. -/
def topOf (line radius : Nat) : Nat :=
  max 1 (line - radius)

/-- The last of them. -/
def bottomOf (content : Text) (line radius : Nat) : Nat :=
  min content.lines.length (line + radius)

/-- The last of them that has a row: the one before an empty last line. -/
def lastShown (content : Text) (line radius : Nat) : Nat :=
  if content.lines[bottomOf content line radius - 1]? = some [] then
    bottomOf content line radius - 1
  else bottomOf content line radius

theorem topOf_le_bottomOf {line radius : Nat} (hone : 1 ≤ line)
    (hthere : line ≤ content.lines.length) : topOf line radius ≤ bottomOf content line radius := by
  rw [topOf, bottomOf]
  omega

theorem blockOf_concat (d : Diagnostic) (rows : List Text) (row : Text) :
    blockOf d (rows ++ [row]) = blockOf d rows ++ (row ++ "\n") := by
  rw [blockOf, blockOf, asLines, asLines, ← List.cons_append, ← List.cons_append,
    List.flatMap_append, List.flatMap_singleton]

/-- A block with one row more is another one. -/
theorem blockOf_concat_ne {d : Diagnostic} {rows : List Text} {row : Text} :
    blockOf d rows ≠ blockOf d (rows ++ [row]) := by
  intro h
  rw [blockOf_concat] at h
  have hnil : row ++ ("\n" : Text) = [] := List.self_eq_append_right.mp h
  exact absurd (List.append_eq_nil_iff.mp hnil).2 (by decide)

/-- The block with a row for each line is the one that is shown exactly if the last line has its
row. -/
theorem blockOf_lastShown_iff {d : Diagnostic} {k : Nat} (hthere : d.line ≤ content.lines.length) :
    blockOf d (rowsOf content d.line (topOf d.line k) (lastShown content d.line k)) =
        blockOf d (rowsOf content d.line (topOf d.line k) (bottomOf content d.line k)) ↔
      content.lines[bottomOf content d.line k - 1]? ≠ some [] := by
  have hle : topOf d.line k ≤ bottomOf content d.line k :=
    topOf_le_bottomOf d.one_le_line hthere
  have hbottom : 1 ≤ bottomOf content d.line k := Nat.le_trans (Nat.le_max_left _ _) hle
  by_cases hempty : content.lines[bottomOf content d.line k - 1]? = some []
  -- the block that is shown lacks the row of the empty line, and no other row makes up for it
  · rw [lastShown, if_pos hempty, rowsOf_succ hle hbottom]
    exact iff_of_false blockOf_concat_ne (not_not_intro hempty)
  · rw [lastShown, if_neg hempty]
    exact iff_of_true rfl hempty

section

variable {files : SourceFiles} {tree : FileTree} {d : Diagnostic} {k : Nat}

/-- **The rows below a finding** are those of the lines around it, without the last of these lines
if it is empty. -/
theorem surroundings_of_read (hread : files.read tree d.file = .ok content)
    (hthere : d.line ≤ content.lines.length) :
    surroundings files tree k d =
      rowsOf content d.line (topOf d.line k) (lastShown content d.line k) := by
  have hwindow : files.window tree d.file d.line k =
      .ok (windowOf d.file content d.line k) := by
    rw [SourceFiles.window, hread]
    rfl
  have htop : 1 ≤ topOf d.line k := Nat.le_max_left _ _
  have hbottom : bottomOf content d.line k ≤ content.lines.length := Nat.min_le_left _ _
  have hshown : lastShown content d.line k ≤ content.lines.length := by
    rw [lastShown]
    split <;> omega
  rw [surroundings, hwindow, windowOf_eq d.file k d.one_le_line hthere]
  show numberedLines (some (d.line : Int)) (topOf d.line k : Nat)
    (Text.join "\n" (linesBetween content (topOf d.line k) (bottomOf content d.line k))).lines = _
  rw [lines_content htop (topOf_le_bottomOf d.one_le_line hthere) hbottom]
  exact numberedLines_linesBetween htop hshown

/-- **The report of a finding shows the lines around it**, each in one row and the line of the
finding marked, without the last of the lines if it is empty. -/
theorem findingReport_of_read (hread : files.read tree d.file = .ok content)
    (hthere : d.line ≤ content.lines.length) :
    findingReport files tree k d =
      blockOf d (rowsOf content d.line (topOf d.line k) (lastShown content d.line k)) :=
  congrArg (blockOf d) (surroundings_of_read hread hthere)

end

/-! ## 3. The report -/

/-- **A report shows the lines around each finding** in a file that has the line: one row for each
of them in order, with its number and its text, and the row of the finding alone is marked. All of
them are shown exactly if the last one is not empty; otherwise the row of that line is missing, and
only that. -/
theorem report_shows_lines (e : Extractor) (files : SourceFiles) (tree : FileTree) (k : Nat)
    {output : Text} {ds : List Diagnostic} (h : (e.extract output).2 = .ok ds) :
    (e.report files tree (some (k : Int)) output).text =
      markedReport (e.markedLines output) ++ ds.flatMap (findingReport files tree k) ∧
    ∀ d ∈ ds, ∀ content, files.read tree d.file = .ok content → d.line ≤ content.lines.length →
      ∃ rows, findingReport files tree k d = blockOf d rows ∧
        rows = rowsOf content d.line (topOf d.line k) (lastShown content d.line k) ∧
        (∀ row ∈ rows, ('\n' : CodePoint) ∉ row) ∧
        rows.filter (Text.startsWith ">") =
          (if d.line ≤ lastShown content d.line k then [rowOf content d.line d.line] else []) ∧
        (findingReport files tree k d =
            blockOf d (rowsOf content d.line (topOf d.line k) (bottomOf content d.line k)) ↔
          content.lines[bottomOf content d.line k - 1]? ≠ some []) := by
  constructor
  · rcases hextract : e.extract output with ⟨events, result⟩
    rw [hextract] at h
    obtain rfl : result = .ok ds := h
    rw [Extractor.report, hextract]
  · intro d _ content hread hthere
    have hreport := findingReport_of_read (k := k) hread hthere
    have htop : topOf d.line k ≤ d.line := Nat.max_le.mpr ⟨d.one_le_line, Nat.sub_le _ _⟩
    refine ⟨_, hreport, rfl, ?_, filter_rowsOf htop, ?_⟩
    · intro row hrow
      obtain ⟨number, -, rfl⟩ := List.mem_map.mp hrow
      exact feed_not_mem_rowOf content d.line number
    · rw [hreport]
      exact blockOf_lastShown_iff hthere

/-- The output of a build with one finding, in the second line of a file. -/
def secondLine : Text :=
  "[ERROR] AA.java:2:1: m [R]\n"

theorem extract_secondLine : ∃ d : Diagnostic,
    (({} : Extractor).extract secondLine).2 = .ok [d] ∧
    d.file = "AA.java" ∧ d.line = 2 ∧ d.column = 1 ∧ d.rule = "R" :=
  ⟨⟨"AA.java", 2, 1, "m", "R", "[ERROR] AA.java:2:1: m [R]", by decide, by decide, by decide⟩,
    by decide +kernel, rfl, rfl, rfl, rfl⟩

/-- A tree with that file. -/
def treeWith (content : Text) : FileTree :=
  ⟨[], [(["AA.java"], .file (content.flatMap Utf8.encodeChar) 0o644)]⟩

/-- An empty line between others is shown, and marked. -/
theorem report_shows_lines_between :
    (∃ d, (({} : Extractor).extract secondLine).2 = .ok [d]) ∧
    (({} : Extractor).report {} (treeWith "package a;\n\nclass A {}\n") (some 1) secondLine).text =
      "----- Checkstyle Errors (1) -----\n[ERROR] AA.java:2:1: m [R]\n" ++
      ("\nAA.java:2:1 [R]\n     1 | package a;\n>    2 | \n     3 | class A {}\n" : Text) := by
  obtain ⟨d, hextract, hfile, hline, hcolumn, hrule⟩ := extract_secondLine
  have hread : ({} : SourceFiles).read (treeWith "package a;\n\nclass A {}\n") d.file =
      .ok "package a;\n\nclass A {}\n" := by
    rw [hfile]
    cbv
  obtain ⟨htext, hfindings⟩ :=
    report_shows_lines {} {} (treeWith "package a;\n\nclass A {}\n") 1 hextract
  obtain ⟨rows, -, -, -, -, hwhole⟩ := hfindings d (List.mem_singleton.mpr rfl) _ hread
    (by rw [hline]; decide)
  rw [List.flatMap_singleton, hwhole.mpr (by rw [hline]; decide), blockOf, Diagnostic.location,
    hfile, hline, hcolumn, hrule] at htext
  exact ⟨⟨d, hextract⟩, htext.trans (by cbv)⟩

/-- **An empty line at the end of a file is not shown**, though the finding is in it. -/
theorem report_skips_line :
    ¬ ∀ (e : Extractor) (files : SourceFiles) (tree : FileTree) (k : Nat) (output : Text)
      (ds : List Diagnostic), (e.extract output).2 = .ok ds →
      ∀ d ∈ ds, ∀ content, files.read tree d.file = .ok content →
        d.line ≤ content.lines.length →
        findingReport files tree k d =
          blockOf d (rowsOf content d.line (topOf d.line k) (bottomOf content d.line k)) := by
  intro h
  obtain ⟨d, hextract, hfile, hline, -, -⟩ := extract_secondLine
  have hread : ({} : SourceFiles).read (treeWith "class A {}\n\n") d.file =
      .ok "class A {}\n\n" := by
    rw [hfile]
    cbv
  have hthere : d.line ≤ (Text.lines "class A {}\n\n").length := by
    rw [hline]
    decide
  have hempty : (Text.lines "class A {}\n\n")[bottomOf "class A {}\n\n" d.line 5 - 1]? =
      some [] := by
    rw [hline]
    decide
  have hwhole := h {} {} (treeWith "class A {}\n\n") 5 secondLine [d] hextract d
    (List.mem_singleton.mpr rfl) _ hread hthere
  have hblock := (findingReport_of_read (k := 5) hread hthere).symm.trans hwhole
  exact (blockOf_lastShown_iff hthere).mp hblock hempty

end LintMend
