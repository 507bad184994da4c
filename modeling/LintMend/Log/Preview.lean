/-
LintMend.Log.Preview — outside text made safe to show in a log line.

Complete colour sequences are taken out first, then the control characters that are left (tab,
line feed and carriage return stay), then the text is cut to a limit. So the preview can neither
forge a line's colour nor drive a terminal.

  `Text.dropColours`, `Text.dropControls` — the two removals
  `Text.truncated`                        — the cut, marked by three points
  `Text.preview`                          — all three
-/
import LintMend.Text.Basic

namespace LintMend

namespace CodePoint

/-- A control character that no preview shows. -/
def isControl (c : CodePoint) : Bool :=
  c.val ≤ 0x08 || c.val == 0x0B || c.val == 0x0C || (0x0E ≤ c.val && c.val ≤ 0x1F) ||
    c.val == 0x7F

/-- A code point between the bracket and the final letter of a colour sequence. -/
def isColourParameter (c : CodePoint) : Bool :=
  (0x30 ≤ c.val && c.val ≤ 0x39) || c.val == 0x3B

end CodePoint

namespace Text

/-- What follows a complete colour sequence (escape, bracket, digits and semicolons, `m`) at the
start of a text. -/
def afterColour? : Text → Option Text
  | ⟨0x1B⟩ :: ⟨0x5B⟩ :: rest =>
    match rest.dropWhile CodePoint.isColourParameter with
    | ⟨0x6D⟩ :: after => some after
    | _ => none
  | _ => none

theorem length_dropWhile_le (p : CodePoint → Bool) (t : Text) :
    (t.dropWhile p).length ≤ t.length :=
  (List.dropWhile_suffix p).length_le

theorem length_afterColour? {t after : Text} (h : afterColour? t = some after) :
    after.length < t.length := by
  unfold afterColour? at h
  split at h
  · rename_i rest
    have := length_dropWhile_le CodePoint.isColourParameter rest
    split at h
    · rename_i stop heq
      cases h
      rw [heq] at this
      simp at this ⊢
      omega
    · cases h
  · cases h

/-- The text without its complete colour sequences, each taken at its first code point. -/
def dropColours (t : Text) : Text :=
  match _h : afterColour? t with
  | some after => dropColours after
  | none =>
    match t with
    | [] => []
    | c :: rest => c :: dropColours rest
termination_by t.length
decreasing_by
  · exact length_afterColour? _h
  · simp

/-- The text without control characters. -/
def dropControls (t : Text) : Text :=
  t.filter (!·.isControl)

/-- The code points before a limit; a limit below zero counts from the end. -/
def upTo (limit : Int) (t : Text) : Text :=
  if 0 ≤ limit then t.take limit.toNat else t.take (t.length - limit.natAbs)

/-- A text beyond the limit is cut there and marked with three points. -/
def truncated (limit : Option Int) (t : Text) : Text :=
  match limit with
  | none => t
  | some n => if (t.length : Int) > n then upTo n t ++ "..." else t

/-- The length of a preview when nothing else is asked for. -/
def previewLimit : Int := 200

/-- Text from outside in the form in which logs show it. -/
def preview (limit : Option Int) (t : Text) : Text :=
  if t.isEmpty then t else truncated limit (dropControls (dropColours t))

end Text

end LintMend
