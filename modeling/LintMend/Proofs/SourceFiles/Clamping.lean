/-
LintMend.Proofs.SourceFiles.Clamping — windows at the ends of a file.

A window may be asked for around any line, with any radius. Its bounds are then cut to the lines
that the file has, and if none of these is near enough, the last line is shown alone. Its content
is made of exactly the lines between the bounds, one line feed between each two, so cutting at line
feeds gives them back. A file without lines has a window all the same, from 1 to 1.

  `bounds_clamped`      — the numbers of the lines in a window
  `splitAt_content`     — the lines of its content, empty ones at the end included
  `SourceWindow.Shows`  — what a window of a file with lines shows
  `window_clamps`       — every window of a file that can be read
-/
import LintMend.Proofs.SourceFiles.Window
import LintMend.Proofs.Text.Cutting
import Mathlib

namespace LintMend

open SourceFiles

/-! ## 1. Bounds -/

/-- The numbers of the lines that are near a line and in a file with so many lines. -/
def linesNear (count line radius : Nat) : Set Int :=
  Set.Icc ((line : Int) - radius) (line + radius) ∩ Set.Icc 1 (count : Int)

namespace SourceFiles

variable {count line radius : Nat}

theorem bounds_ordered (hcount : 1 ≤ count) (hline : 1 ≤ line) :
    1 ≤ firstOf count line radius ∧ firstOf count line radius ≤ lastOf count line radius ∧
      lastOf count line radius ≤ count := by
  simp only [firstOf, lastOf]
  omega

/-- **The numbers in a window** are those that are near and in the file. -/
theorem bounds_clamped (hcount : 1 ≤ count) (hline : 1 ≤ line)
    (hmeet : (linesNear count line radius).Nonempty) :
    Set.Icc (firstOf count line radius : Int) (lastOf count line radius) =
      linesNear count line radius := by
  obtain ⟨i, ⟨hlow, -⟩, ⟨-, hhigh⟩⟩ := hmeet
  ext j
  simp only [linesNear, firstOf, lastOf, Set.mem_inter_iff, Set.mem_Icc]
  omega

/-- Where no line of the file is near, the window is its last line. -/
theorem bounds_apart (hcount : 1 ≤ count) (hline : 1 ≤ line)
    (hapart : linesNear count line radius = ∅) :
    firstOf count line radius = count ∧ lastOf count line radius = count := by
  have hnone : ∀ i : Int, i ∉ linesNear count line radius := by
    rw [hapart]
    exact Set.notMem_empty
  -- the file ends before the line, and the line is more than the radius away from its end
  have hline' := hnone line
  have hend := hnone count
  simp only [linesNear, Set.mem_inter_iff, Set.mem_Icc] at hline' hend
  simp only [firstOf, lastOf]
  omega

/-- A larger radius moves the bounds apart. -/
theorem bounds_wider {wider : Nat} (hline : 1 ≤ line) (hwider : radius ≤ wider) :
    firstOf count line wider ≤ firstOf count line radius ∧
      lastOf count line radius ≤ lastOf count line wider := by
  have hlast : lastOf count line radius ≤ lastOf count line wider :=
    min_le_min_left _ (Nat.add_le_add_left hwider line)
  refine ⟨le_min ?_ (le_min ?_ ?_), hlast⟩
  · exact (min_le_left _ _).trans (max_le_max_left 1 (Nat.sub_le_sub_left hwider line))
  · exact (min_le_right _ _).trans (min_le_left _ _)
  · have htop : max 1 (line - wider) ≤ line + radius := by omega
    exact (min_le_left _ _).trans htop

/-- A line is within the bounds exactly if the file has it. -/
theorem le_lastOf_iff (hcount : 1 ≤ count) : line ≤ lastOf count line radius ↔ line ≤ count := by
  simp only [lastOf]
  omega

/-! ## 2. Content -/

/-- **The content of a window, cut at line feeds**, is the lines between its bounds. -/
theorem splitAt_content {content : Text} {first last : Nat} (hfirst : 1 ≤ first)
    (hle : first ≤ last) (hlast : last ≤ content.lines.length) :
    Text.splitAt '\n' (Text.join "\n" (linesBetween content first last)) =
      linesBetween content first last := by
  have hlength := length_linesBetween hfirst hlast
  refine Text.splitAt_join ?_ ?_
  · intro hnone
    rw [hnone, List.length_nil] at hlength
    omega
  · intro line hline hfeed
    exact absurd (isLineBreak_of_mem_linesBetween hline _ hfeed) (by decide)

end SourceFiles

/-! ## 3. Windows -/

/-- What a window around a line of a text shows, if the text has lines: those near the line, or the
last one if none is near. -/
structure SourceWindow.Shows (w : SourceWindow) (content : Text) (line radius : Nat) : Prop where
  one_le_first : 1 ≤ w.first
  first_le_last : w.first ≤ w.last
  last_le : w.last ≤ content.lines.length
  near : (linesNear content.lines.length line radius).Nonempty →
    Set.Icc w.first w.last = linesNear content.lines.length line radius
  apart : linesNear content.lines.length line radius = ∅ →
    w.first = content.lines.length ∧ w.last = content.lines.length
  lines : Text.splitAt '\n' w.content = linesBetween content w.first.toNat w.last.toNat
  count : (Text.splitAt '\n' w.content).length = w.lineCount
  highlight : w.highlight = if line ≤ content.lines.length then some (line : Int) else none

namespace SourceFiles

variable {files : SourceFiles} {tree : FileTree} {path content : Text} {line : Nat}

theorem window_of_read (hread : files.read tree path = .ok content) (line radius : Int) :
    files.window tree path line radius = .ok (windowOf path content line radius) := by
  rw [window, hread]
  rfl

theorem shows_windowOf (path : Text) (radius : Nat) (hcount : 1 ≤ content.lines.length)
    (hline : 1 ≤ line) : (windowOf path content line radius).Shows content line radius := by
  rw [windowOf_clamped path content radius hline]
  obtain ⟨hfirst, hle, hlast⟩ := @bounds_ordered _ _ radius hcount hline
  have hlines := splitAt_content hfirst hle hlast
  refine ⟨?_, ?_, ?_, bounds_clamped hcount hline, ?_, hlines, ?_, ?_⟩
  · exact Int.ofNat_le.mpr hfirst
  · exact Int.ofNat_le.mpr hle
  · exact Int.ofNat_le.mpr hlast
  · intro hapart
    obtain ⟨hfirst, hlast⟩ := bounds_apart hcount hline hapart
    exact ⟨congrArg Int.ofNat hfirst, congrArg Int.ofNat hlast⟩
  · rw [hlines, length_linesBetween hfirst hlast, SourceWindow.lineCount]
    show ((_ + 1 - _ : Nat) : Int) = (_ : Nat) - (_ : Nat) + 1
    omega
  · simp only [le_lastOf_iff hcount]

/-- **Windows are clamped to the file**: a window around any line, with any radius, of a file that
can be read shows the lines of the file that are near, or its last line if none is; and a larger
radius shows no less. In a file without lines it goes from 1 to 1 and is empty, and the first line
counts as there. -/
theorem window_clamps (hread : files.read tree path = .ok content) (hline : 1 ≤ line)
    (radius : Nat) : ∃ w, files.window tree path line radius = .ok w ∧ w.path = path ∧
      (1 ≤ content.lines.length → w.Shows content line radius) ∧
      (content.lines.length = 0 → w.first = 1 ∧ w.last = 1 ∧ w.content = [] ∧
        w.highlight = if line = 1 then some 1 else none) ∧
      ∀ wider : Nat, radius ≤ wider → ∃ w', files.window tree path line wider = .ok w' ∧
        w'.first ≤ w.first ∧ w.last ≤ w'.last := by
  refine ⟨_, window_of_read hread line radius, rfl, ?_, ?_, ?_⟩
  · intro hcount
    exact shows_windowOf path radius hcount hline
  · intro hnone
    have hlast : lastOf content.lines.length line radius = 1 := by
      rw [lastOf, hnone]
      omega
    have hfirst : firstOf content.lines.length line radius = 1 := by
      rw [firstOf, hlast]
      omega
    have hempty : linesBetween content 1 1 = [] := by
      rw [linesBetween, List.length_eq_zero_iff.mp hnone]
      rfl
    have hone : line ≤ 1 ↔ line = 1 := by omega
    rw [windowOf_clamped path content radius hline, hfirst, hlast, hempty]
    refine ⟨rfl, rfl, rfl, ?_⟩
    simp only [hone]
    split
    · next h => rw [h]; rfl
    · rfl
  · intro wider hwider
    obtain ⟨hfirst, hlast⟩ :=
      @bounds_wider content.lines.length _ _ _ hline hwider
    refine ⟨_, window_of_read hread line wider, ?_⟩
    rw [windowOf_clamped path content radius hline, windowOf_clamped path content wider hline]
    exact ⟨Int.ofNat_le.mpr hfirst, Int.ofNat_le.mpr hlast⟩

/-- A tree with one file. -/
def singleFile (content : Text) : FileTree :=
  ⟨[], [(["A"], .file (content.flatMap Utf8.encodeChar) 0o644)]⟩

/-- Three lines, the second one empty and the last one without an end. -/
def threeLines : Text :=
  "a\r\n\x0cc"

/-- Around a line that is not there, the two lines before it are shown and none is marked. -/
theorem window_clamps_beyond :
    ({} : SourceFiles).read (singleFile threeLines) "A" = .ok threeLines ∧
    ∃ w, ({} : SourceFiles).window (singleFile threeLines) "A" (4 : Nat) (2 : Nat) = .ok w ∧
      w.highlight = none ∧ Set.Icc w.first w.last = linesNear 3 4 2 ∧
      Text.splitAt '\n' w.content = linesBetween threeLines w.first.toNat w.last.toNat := by
  have hread : ({} : SourceFiles).read (singleFile threeLines) "A" = .ok threeLines := by cbv
  obtain ⟨w, hw, -, hshows, -, -⟩ := window_clamps hread (by decide : 1 ≤ 4) 2
  have hshown := hshows (by decide)
  have hnear : (3 : Int) ∈ linesNear 3 4 2 := by
    simp [linesNear]
  exact ⟨hread, w, hw, hshown.highlight, hshown.near ⟨3, hnear⟩, hshown.lines⟩

end SourceFiles

end LintMend
