/-
LintMend.Yaml.Plain — scalars without quotes.

A plain scalar goes on over lines that are indented enough. The end of one line within it counts
as a space; of several in a row, all but the first stay.

  `Yaml.plain` — a plain scalar from its first code point on
-/
import LintMend.Yaml.Cursor

namespace LintMend.Yaml

/-- The code points that end a plain scalar within brackets. -/
def isFlowMark (c : CodePoint) : Bool :=
  c == ',' || c == '[' || c == ']' || c == '\x7b' || c == '\x7d'

/-- The part of a plain scalar up to the next gap. -/
def plainRun (inFlow : Bool) : Text → Text
  | [] => []
  | c :: rest =>
    if isBlank c || isBreak c then []
    else if c == ':' && (atGap rest || (inFlow && (rest.head?.map isFlowMark).getD false)) then []
    else if inFlow && (isFlowMark c || c == '?') then []
    else c :: plainRun inFlow rest

/-- Go past spaces and line ends; `none` if a document ends here. -/
def plainBreaks : (fuel : Nat) → Cursor → Text → Option Text × Cursor
  | 0, c, done => (some done, c)
  | fuel + 1, c, done =>
    match c.rest with
    | [] => (some done, c)
    | d :: _ =>
      if d.val == 0x20 then plainBreaks fuel c.advance done
      else if isBreak d then
        let (t, next) := c.takeBreak
        if atDocumentMark next.rest then (none, next)
        else plainBreaks fuel next (done ++ t)
      else (some done, c)

/-- The gap after a part of a plain scalar: the text for which it stands, empty where the scalar
ends, and whether a line ended. -/
def plainGap (c : Cursor) : Text × Bool × Cursor :=
  let (spaces, c) := c.takeWhile (·.val == 0x20)
  match c.rest with
  | [] => (spaces, false, c)
  | d :: _ =>
    if isBreak d then
      let (first, next) := c.takeBreak
      if atDocumentMark next.rest then ([], true, next)
      else
        match plainBreaks next.rest.length next [] with
        | (none, stop) => ([], true, stop)
        | (some breaks, stop) =>
          let head : Text :=
            if first != "\n" then first else if breaks.isEmpty then " " else []
          (head ++ breaks, true, stop)
    else (spaces, false, c)

/-- The rest of a plain scalar after a part of it and a gap. -/
def plainFrom (inFlow : Bool) (indent : Int) :
    (fuel : Nat) → Cursor → (done gap : Text) → (lineEnded : Bool) → Text × Bool × Cursor
  | 0, c, done, _, lineEnded => (done, lineEnded, c)
  | fuel + 1, c, done, gap, lineEnded =>
    let run := plainRun inFlow c.rest
    if c.sees '#' || run.isEmpty then (done, lineEnded, c)
    else
      let done := done ++ gap ++ run
      let (gap, lineEnded, stop) := plainGap (c.advanceBy run.length)
      if gap.isEmpty || stop.sees '#' || (!inFlow && decide ((stop.column : Int) < indent)) then
        (done, lineEnded, stop)
      else plainFrom inFlow indent fuel stop done gap lineEnded

/-- A plain scalar: its text, whether a line ended after its last part, and the place after it.
Outside of brackets it goes on over lines that are indented at least so far. -/
def plain (inFlow : Bool) (indent : Int) (c : Cursor) : Text × Bool × Cursor :=
  plainFrom inFlow indent (c.rest.length + 1) c [] [] false

end LintMend.Yaml
