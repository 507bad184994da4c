/-
LintMend.Proofs.SourceFiles.Window — the lines around a line of a file.

The bounds of a window are integers, since a radius may be given that leads below the first line.
They are line numbers all the same, and the window holds the lines between them, joined. Where
these are cut apart again as a text is, an empty line at the lower end is lost.

  `slice_ofNat`      — a part of a list between two places
  `linesBetween`     — the lines of a text from one number to another
  `windowOf_clamped` — the window around a line, `windowOf_eq` around one that is there
  `lines_content`    — the lines of its content
-/
import LintMend.Proofs.Text.Lines
import LintMend.SourceFiles

namespace LintMend.SourceFiles

/-! ## 1. Parts of a list -/

theorem slice_ofNat {α : Type} (items : List α) (start stop : Nat) :
    slice items start stop = (items.drop start).take (stop - start) := by
  have hclamp : ∀ i : Nat, clampIndex items.length i = min i items.length := by
    intro i
    simp [clampIndex]
  rw [slice, hclamp, hclamp, ← List.take_eq_take_min, ← List.drop_take]
  by_cases h : start ≤ items.length
  · rw [Nat.min_eq_left h]
  · have hlong : items.length ≤ start := by omega
    have htaken : (items.take stop).length ≤ items.length := List.length_take_le' stop items
    rw [Nat.min_eq_right hlong, List.drop_of_length_le htaken,
      List.drop_of_length_le (Nat.le_trans htaken hlong)]

/-- The lines of a text from one number to another, counted from one. -/
def linesBetween (content : Text) (first last : Nat) : List Text :=
  (content.lines.drop (first - 1)).take (last + 1 - first)

section

variable {content : Text} {first last : Nat}

theorem length_linesBetween (hfirst : 1 ≤ first) (hlast : last ≤ content.lines.length) :
    (linesBetween content first last).length = last + 1 - first := by
  rw [linesBetween, List.length_take, List.length_drop]
  omega

theorem isLineBreak_of_mem_linesBetween {line : Text} (h : line ∈ linesBetween content first last) :
    ∀ c ∈ line, c.isLineBreak = false :=
  Text.isLineBreak_of_mem_lines (List.mem_of_mem_drop (List.mem_of_mem_take h))

theorem getLast?_linesBetween (hfirst : 1 ≤ first) (hle : first ≤ last)
    (hlast : last ≤ content.lines.length) :
    (linesBetween content first last).getLast? = content.lines[last - 1]? := by
  rw [List.getLast?_eq_getElem?, length_linesBetween hfirst hlast, linesBetween,
    List.getElem?_take_of_lt (by omega), List.getElem?_drop]
  congr 1
  omega

theorem dropLast_linesBetween (hfirst : 1 ≤ first) (hle : first ≤ last)
    (hlast : last ≤ content.lines.length) :
    (linesBetween content first last).dropLast = linesBetween content first (last - 1) := by
  have hfewer : min (last + 1 - first - 1) (last + 1 - first) = last - 1 + 1 - first := by omega
  rw [List.dropLast_eq_take, length_linesBetween hfirst hlast, linesBetween, linesBetween,
    List.take_take, hfewer]

/-! ## 2. The window around a line -/

/-- The last line of a window, in a file with so many lines. -/
def lastOf (count line radius : Nat) : Nat :=
  min (max 1 count) (line + radius)

/-- The first line of a window, in a file with so many lines. -/
def firstOf (count line radius : Nat) : Nat :=
  min (max 1 (line - radius)) (lastOf count line radius)

/-- **The window around a line**, whether the file has that line or not. -/
theorem windowOf_clamped (path content : Text) {line : Nat} (radius : Nat) (hline : 1 ≤ line) :
    windowOf path content line radius =
      { path
        first := firstOf content.lines.length line radius
        last := lastOf content.lines.length line radius
        content := Text.join "\n" (linesBetween content
          (firstOf content.lines.length line radius) (lastOf content.lines.length line radius))
        highlight :=
          if line ≤ lastOf content.lines.length line radius then some (line : Int) else none } := by
  generalize hlast : lastOf content.lines.length line radius = last
  generalize hfirst : firstOf content.lines.length line radius = first
  rw [firstOf, hlast] at hfirst
  rw [lastOf] at hlast
  have hend : min (max 1 (content.lines.length : Int)) (line + radius) = (last : Int) := by omega
  have hstart : min (max 1 ((line : Int) - radius)) (last : Int) = (first : Int) := by omega
  have hbefore : (first : Int) - 1 = ((first - 1 : Nat) : Int) := by omega
  have hmarked : (first : Int) ≤ line ∧ (line : Int) ≤ last ↔ line ≤ last := by omega
  have hcount : last - (first - 1) = last + 1 - first := by omega
  simp only [windowOf, hend, hstart, hbefore, hmarked, slice_ofNat, hcount]
  rfl

/-- **The window around a line of a file** starts and ends with the line that far from it, or with
the first or last line of the file; it holds these lines, joined, and the line is marked in it. -/
theorem windowOf_eq (path : Text) {line : Nat} (radius : Nat) (hline : 1 ≤ line)
    (hthere : line ≤ content.lines.length) :
    windowOf path content line radius =
      { path
        first := (max 1 (line - radius) : Nat)
        last := (min content.lines.length (line + radius) : Nat)
        content := Text.join "\n" (linesBetween content (max 1 (line - radius))
          (min content.lines.length (line + radius)))
        highlight := some (line : Int) } := by
  have hlast : lastOf content.lines.length line radius =
      min content.lines.length (line + radius) := by
    rw [lastOf]
    omega
  have hfirst : firstOf content.lines.length line radius = max 1 (line - radius) := by
    rw [firstOf, hlast]
    omega
  have hmarked : line ≤ min content.lines.length (line + radius) := by omega
  rw [windowOf_clamped path content radius hline, hfirst, hlast, if_pos hmarked]

/-- The lines of joined lines of a text: those, or one less if the last of them is empty. -/
theorem lines_content (hfirst : 1 ≤ first) (hle : first ≤ last)
    (hlast : last ≤ content.lines.length) :
    (Text.join "\n" (linesBetween content first last)).lines =
      linesBetween content first
        (if content.lines[last - 1]? = some [] then last - 1 else last) := by
  rw [Text.lines_join fun line h => isLineBreak_of_mem_linesBetween h,
    getLast?_linesBetween hfirst hle hlast]
  split
  · exact dropLast_linesBetween hfirst hle hlast
  · rfl

end

end LintMend.SourceFiles
