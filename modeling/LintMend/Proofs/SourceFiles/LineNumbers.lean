/-
LintMend.Proofs.SourceFiles.LineNumbers — whether a window marks the line that was meant.

Findings number lines as a compiler does, by line feeds and carriage returns. A window numbers them
by every code point that ends a line in some convention. A form feed, say, ends a line for the
window and none for the compiler, and from there on another line than the one that was meant is
marked. The numbers part only there, so up to the first line with such a code point they agree.

  `SourceWindow.marked?`           — the text of the line that is marked
  `marked?_window`                 — it is the line with that number among all lines
  `window_marks_source_lines_iff`  — up to which line it is the one that was meant
  `window_marks_other_line`        — a file in which it is another
-/
import LintMend.Proofs.SourceFiles.Clamping
import LintMend.Proofs.Text.SourceLines

namespace LintMend

/-- The text of the line that a window marks, if it marks one. -/
def SourceWindow.marked? (w : SourceWindow) : Option Text :=
  w.highlight.bind fun line => (Text.splitAt '\n' w.content)[(line - w.first).toNat]?

namespace SourceFiles

variable {files : SourceFiles} {tree : FileTree} {path content : Text} {line : Nat}

/-! ## 1. The marked line -/

/-- A line that a text has is marked in the window around it. -/
theorem marked?_windowOf (path : Text) (radius : Nat) (hline : 1 ≤ line)
    (hthere : line ≤ content.lines.length) :
    (windowOf path content line radius).highlight = some (line : Int) ∧
      (windowOf path content line radius).marked? = content.lines[line - 1]? := by
  rw [windowOf_eq path radius hline hthere]
  refine ⟨rfl, ?_⟩
  generalize hfirst : max 1 (line - radius) = first
  generalize hlast : min content.lines.length (line + radius) = last
  have hlines : Text.splitAt '\n' (Text.join "\n" (linesBetween content first last)) =
      linesBetween content first last := splitAt_content (by omega) (by omega) (by omega)
  have hoffset : ((line : Int) - first).toNat = line - first := by omega
  have hplace : first - 1 + (line - first) = line - 1 := by omega
  simp only [SourceWindow.marked?, Option.bind_some, hlines, hoffset]
  rw [linesBetween, List.getElem?_take_of_lt (by omega), List.getElem?_drop, hplace]

/-- **The line that is marked** around a line of a file is the one with that number. -/
theorem marked?_window (hread : files.read tree path = .ok content) (radius : Nat)
    (hline : 1 ≤ line) (hthere : line ≤ content.lines.length) :
    ∃ w, files.window tree path line radius = .ok w ∧ w.highlight = some (line : Int) ∧
      w.marked? = content.lines[line - 1]? :=
  ⟨_, window_of_read hread line radius, marked?_windowOf path radius hline hthere⟩

/-! ## 2. The line that was meant -/

/-- Where a line of source code begins among the lines of a window. -/
def lineOfSource (content : Text) (line : Nat) : Nat :=
  line + Text.drift (content.sourceLines.take (line - 1))

theorem getElem?_lineOfSource (hline : 1 ≤ line) (hthere : line ≤ content.sourceLines.length) :
    content.lines[lineOfSource content line - 1]? =
      content.sourceLines[line - 1]?.map Text.beginning := by
  have hbefore : line - 1 < content.sourceLines.length := by omega
  have hplace : lineOfSource content line - 1 =
      line - 1 + Text.drift (content.sourceLines.take (line - 1)) := by
    rw [lineOfSource]
    omega
  rw [hplace, Text.getElem?_lines_drift content hbefore, List.getElem?_eq_getElem hbefore]
  rfl

theorem lineOfSource_le (hline : 1 ≤ line) (hthere : line ≤ content.sourceLines.length) :
    lineOfSource content line ≤ content.lines.length := by
  have hplace := getElem?_lineOfSource hline hthere
  rw [List.getElem?_eq_getElem (by omega : line - 1 < content.sourceLines.length)] at hplace
  obtain ⟨hlt, -⟩ := List.getElem?_eq_some_iff.mp hplace
  omega

/-- **The marked line is the one that was meant** for all lines up to a given one exactly if none of
these holds a further line break. A line of source code is found at its number and the number of
such code points in the lines before it, and marked up to the first one in itself. -/
theorem window_marks_source_lines_iff (hread : files.read tree path = .ok content) {k : Nat}
    (hk : k ≤ content.sourceLines.length) :
    ((∀ line, 1 ≤ line → line ≤ k → ∀ radius : Nat,
        ∃ w, files.window tree path line radius = .ok w ∧
          w.marked? = content.sourceLines[line - 1]?) ↔
      ∀ row ∈ content.sourceLines.take k, ∀ c ∈ row, c.isLineBreak = false) ∧
    ∀ line, 1 ≤ line → line ≤ content.sourceLines.length → ∀ radius : Nat,
      ∃ w, files.window tree path (lineOfSource content line : Nat) radius = .ok w ∧
        w.highlight = some (lineOfSource content line : Int) ∧
        w.marked? = content.sourceLines[line - 1]?.map Text.beginning := by
  constructor
  · rw [← Text.agrees_iff content hk]
    constructor
    · intro hmarked i hi
      obtain ⟨w, hw, hrow⟩ := hmarked (i + 1) (by omega) (by omega) 0
      have hthere : i + 1 ≤ content.lines.length := by
        have hle : lineOfSource content (i + 1) ≤ content.lines.length :=
          lineOfSource_le (by omega) (by omega)
        rw [lineOfSource] at hle
        omega
      obtain ⟨w', hw', -, hline⟩ := marked?_window hread 0 (by omega) hthere
      obtain rfl := Except.ok.inj (hw.symm.trans hw')
      exact hline.symm.trans hrow
    · intro hagree line hline hle radius
      have hthere : line ≤ content.lines.length := by
        have hle : lineOfSource content line ≤ content.lines.length :=
          lineOfSource_le hline (by omega)
        rw [lineOfSource] at hle
        omega
      obtain ⟨w, hw, -, hrow⟩ := marked?_window hread radius hline hthere
      exact ⟨w, hw, hrow.trans (hagree (line - 1) (by omega))⟩
  · intro line hline hthere radius
    have hone : 1 ≤ lineOfSource content line := Nat.le_add_right_of_le hline
    obtain ⟨w, hw, hhighlight, hrow⟩ :=
      marked?_window hread radius hone (lineOfSource_le hline hthere)
    exact ⟨w, hw, hhighlight, hrow.trans (getElem?_lineOfSource hline hthere)⟩

/-- A file with a form feed on a line of its own, between two others. -/
def paged : Text :=
  "package a;\n\x0c\nclass A {}\n"

theorem read_paged : ({} : SourceFiles).read (singleFile paged) "A" = .ok paged := by
  cbv

/-- In such a file the first line is the one that was meant, and the third is found at 4. -/
theorem window_marks_source_lines_iff_paged :
    ({} : SourceFiles).read (singleFile paged) "A" = .ok paged ∧
    1 ≤ paged.sourceLines.length ∧ lineOfSource paged 3 = 4 ∧
    (∃ w, ({} : SourceFiles).window (singleFile paged) "A" (1 : Nat) (2 : Nat) = .ok w ∧
      w.marked? = some "package a;") ∧
    ∃ w, ({} : SourceFiles).window (singleFile paged) "A" (4 : Nat) (2 : Nat) = .ok w ∧
      w.marked? = some "class A {}" := by
  have hk : 1 ≤ paged.sourceLines.length := by decide
  obtain ⟨hagree, hplaces⟩ := window_marks_source_lines_iff read_paged hk
  have hnone : ∀ row ∈ paged.sourceLines.take 1, ∀ c ∈ row, c.isLineBreak = false := by decide
  obtain ⟨w, hw, hfirst⟩ := hagree.mpr hnone 1 (Nat.le_refl 1) (Nat.le_refl 1) 2
  obtain ⟨w', hw', -, hthird⟩ := hplaces 3 (by decide) (by decide) 2
  exact ⟨read_paged, hk, by decide, ⟨w, hw, hfirst⟩, w', hw', hthird⟩

/-- **Another line than the one that was meant is marked** behind a form feed. -/
theorem window_marks_other_line :
    ¬ ∀ (files : SourceFiles) (tree : FileTree) (path content : Text) (line radius : Nat),
      files.read tree path = .ok content → 1 ≤ line → line ≤ content.sourceLines.length →
      ∃ w, files.window tree path line radius = .ok w ∧
        w.marked? = content.sourceLines[line - 1]? := by
  intro h
  obtain ⟨w, hw, hrow⟩ := h {} (singleFile paged) "A" paged 3 0 read_paged (by decide) (by decide)
  obtain ⟨w', hw', -, hline⟩ :=
    marked?_window read_paged 0 (by decide : 1 ≤ 3) (by decide)
  obtain rfl := Except.ok.inj (hw.symm.trans hw')
  exact absurd (hline.symm.trans hrow) (by decide)

end SourceFiles

end LintMend
