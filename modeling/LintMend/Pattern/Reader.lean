/-
LintMend.Pattern.Reader — reading written patterns.

A pattern is a choice of sequences, divided by bars. A sequence is made of code points, the point,
classes in brackets, escapes, the places `^` and `$`, and what parentheses open, each perhaps
repeated: by `*`, `+`, `?` or counts in braces, greedily unless a question mark follows, and
without ever giving back what was matched if a plus sign does.

  `Pattern.read` — the pattern of a text, with the number of its groups
-/
import LintMend.Pattern.Bracket
import LintMend.Pattern.Opening
import LintMend.Pattern.Width
import LintMend.Text.Integer

namespace LintMend.Pattern

/-- What a reader knows. -/
structure ReaderState where
  tokens : Tokens
  manner : Manner := {}
  /-- The widths of the groups so far, those that are still open without one. -/
  widths : List (Option Width) := []
  names : List (Text × Nat) := []
  /-- How many groups there were where the outermost look back began. -/
  behind : Option Nat := none
  /-- Groups that are asked for by number before they have to exist, and where. -/
  asked : List (Nat × Nat) := []
  /-- The marks of the whole pattern. -/
  marks : Text := []
  /-- Whether a look back has no fixed width. -/
  loose : Bool := false

/-- A step of the reader. -/
abbrev Reading := StateT ReaderState (Except Fault)

namespace Reading

/-- Take what a reader of tokens reads. -/
def take {α : Type} (read : Tokens → Except Fault (α × Tokens)) : Reading α := do
  let st ← get
  let (a, rest) ← read st.tokens
  set { st with tokens := rest }
  return a

/-- The next token. -/
def next? : Reading (Option Text) := return (← get).tokens.next?

/-- The position of the next token. -/
def position : Reading Nat := return (← get).tokens.position

/-- Go past the next token. -/
def drop : Reading Unit := take fun ts => return ((), ← ts.drop)

/-- Go past the next token if it is a given code point, and say whether it was. -/
def skip (c : CodePoint) : Reading Bool := take (·.skip c)

/-- Stop at a position. -/
def fail {α : Type} (reason : Text) (position : Nat) : Reading α :=
  throw (.here reason position)

end Reading

open Reading

namespace ReaderState

/-- Whether a group exists and is closed. -/
def isClosed (st : ReaderState) (number : Nat) : Bool :=
  ((st.widths[number - 1]?).getD none).isSome

/-- The width of a group. -/
def widthOf (st : ReaderState) (number : Nat) : Width :=
  ((st.widths[number - 1]?).getD none).getD .zero

end ReaderState

/-- Check that a look back only refers to groups that were closed before it. -/
def checkLookBack (number : Nat) : Reading Unit := do
  let st ← get
  match st.behind with
  | none => return ()
  | some before =>
    if !st.isClosed number then fail "cannot refer to an open group" st.tokens.position
    if before < number then
      fail "cannot refer to group defined in the same lookbehind subpattern" st.tokens.position

/-- What a pattern is for a repetition after it. -/
inductive ItemKind where
  /-- It can be repeated. -/
  | plain
  /-- It is a place. -/
  | place
  /-- It is a repetition already. -/
  | repetition
  deriving DecidableEq, Repr

/-- An item of a sequence. -/
structure Item where
  pattern : Pattern
  kind : ItemKind := .plain

/-- The items of a sequence, the last one first, as one pattern. -/
def sequenceOf (done : List Item) : Pattern :=
  all (done.reverse.map (·.pattern))

/-- How often an item is repeated. -/
structure Count where
  least : Nat
  most : Option Nat

/-- Counts from here on are too large. -/
def countLimit : Nat := 4294967295

/-- The number of digits, if there are any. -/
def countOf? (digits : Text) : Reading (Option Nat) := do
  if digits.isEmpty then return none
  let n := numberOf 10 digits
  if n < countLimit then return some n
  throw ⟨"the repetition number is too large", none, .tooLarge⟩

/-- The counts after an opening brace; `none` if the brace is just a brace, which then is all that
is taken. -/
def readCounts? : Reading (Option Count) := do
  let before ← get
  let here := before.tokens.position
  if before.tokens.nextChar? == some '\x7d' then return none
  let digits := take (·.takeWhile isLatinDigit (before.tokens.left.length + 1))
  let low ← digits
  let high ← if ← skip ',' then digits else pure low
  if !(← skip '\x7d') then
    set before
    return none
  let least ← countOf? low
  let most ← countOf? high
  match most with
  | some m =>
    if m < least.getD 0 then fail "min repeat greater than max repeat" here
  | none => pure ()
  return some ⟨least.getD 0, most⟩

/-- The repetition that a token, already taken, asks for. -/
def readCount? (t : Text) : Reading (Option Count) := do
  if t = "*" then return some ⟨0, none⟩
  else if t = "+" then return some ⟨1, none⟩
  else if t = "?" then return some ⟨0, some 1⟩
  else if t = "\x7b" then readCounts?
  else return none

/-- Repeat the last item of a sequence, for a repetition at a position. -/
def repeatLast (start : Nat) (count : Count) : List Item → Reading (List Item)
  | [] => fail "nothing to repeat" start
  | ⟨p, kind⟩ :: before => do
    if kind = .place then fail "nothing to repeat" start
    if kind = .repetition then fail "multiple repeat" start
    let again (greedy : Bool) (p : Pattern) := Pattern.repeat greedy count.least count.most p
    if ← skip '?' then return ⟨again false p, .repetition⟩ :: before
    if ← skip '+' then return ⟨atomic (again true (atomic p)), .repetition⟩ :: before
    return ⟨again true p, .repetition⟩ :: before

/-- A code point that stands for itself. -/
def charItem (m : Manner) (c : CodePoint) : Item :=
  ⟨one (m.classOf [.range c c] false), .plain⟩

/-- What a group matched once more, called by number at a position. -/
def callGroup (start number : Nat) : Reading Item := do
  let st ← get
  if st.widths.length < number then
    fail ("invalid group reference " ++ Text.ofNat number) (start + 1)
  if !st.isClosed number then fail "cannot refer to an open group" start
  checkLookBack number
  return ⟨same st.manner.casing number, .plain⟩

/-- The item of a token other than a parenthesis, which is already taken. -/
def readSimple (start : Nat) (t : Text) : Reading Item := do
  let m := (← get).manner
  match t with
  | [c] =>
    if c = '.' then return ⟨one (if m.pointAll then .anything else .notLineFeed), .plain⟩
    else if c = '^' then return ⟨if m.everyLine then lineStart else textStart, .place⟩
    else if c = '$' then return ⟨if m.everyLine then lineEnd else lastLineEnd, .place⟩
    else if c = '[' then
      let (items, negated) ← take (readBracket start)
      return ⟨one (m.classOf items negated), .plain⟩
    else return charItem m c
  | [_, c] =>
    match ← take (readEscape m.latin start c) with
    | .char d => return charItem m d
    | .item item => return ⟨one (m.classOf [item] false), .plain⟩
    | .place p => return ⟨p, .place⟩
    | .group number => callGroup start number
  | _ => fail "unexpected end of pattern" start

/-- The group that a test names by name or number. -/
def testedGroup (name : Text) : Reading Nat := do
  let st ← get
  let place := st.tokens.position - (name.length + 1)
  if isGroupName name then
    match st.names.find? (·.1 == name) with
    | some (_, number) => return number
    | none => fail ("unknown group name " ++ name.quoted) place
  else
    match name.int? with
    | some (.ofNat number) =>
      if number = 0 then fail "bad group number" place
      if !st.asked.any (·.1 == number) then
        set { st with asked := st.asked ++ [(number, place)] }
      return number
    | _ => fail ("bad character in group name " ++ name.quoted) place

/-- The group of a name, called once more. -/
def callNamed (name : Text) : Reading Item := do
  let st ← get
  let place := st.tokens.position - (name.length + 1)
  match st.names.find? (·.1 == name) with
  | none => fail ("unknown group name " ++ name.quoted) place
  | some (_, number) =>
    if !st.isClosed number then fail "cannot refer to an open group" place
    checkLookBack number
    return ⟨same st.manner.casing number, .plain⟩

/-- The number of a group that is opened here. -/
def openGroup (name : Option Text) : Reading Nat := do
  let st ← get
  let number := st.widths.length + 1
  let names ← match name with
    | none => pure st.names
    | some name =>
      match st.names.find? (·.1 == name) with
      | some (_, other) =>
        fail ("redefinition of group name " ++ name.quoted ++ " as group " ++ Text.ofNat number ++
          "; was group " ++ Text.ofNat other) (st.tokens.position - (name.length + 1))
      | none => pure (st.names ++ [(name, number)])
  set { st with names, widths := st.widths ++ [none] }
  return number

/-- Close a group that matches a pattern. -/
def closeGroup (number : Nat) (p : Pattern) : Reading Unit :=
  modify fun st => { st with widths := st.widths.set (number - 1) (some (p.width st.widthOf)) }

/-- Go past the closing parenthesis of what was opened at a position. -/
def closeParenthesis (start : Nat) : Reading Unit := do
  if !(← skip ')') then fail "missing ), unterminated subpattern" start

/-- The marks of a whole pattern, which stand in front of it. -/
def setMarks (start : Nat) (mayMark : Bool) (added : Text) : Reading Unit := do
  if !mayMark then fail "global flags not at the start of the expression" start
  modify fun st =>
    { st with manner := st.manner.change added [], marks := st.marks ++ added }

/-- Blanks that a pattern may hold for its looks. -/
def isPadding (t : Text) : Bool :=
  match t with
  | [c] => c == ' ' || (0x09 ≤ c.val && c.val ≤ 0x0D)
  | _ => false

/-- Go past the rest of a line. -/
def skipLine : (fuel : Nat) → Reading Unit
  | 0 => return ()
  | fuel + 1 => do
    match ← next? with
    | none => return ()
    | some t =>
      drop
      if t = "\n" then return () else skipLine fuel

/-- What is looked for, from here on or right before. -/
def lookItem (wanted behind : Bool) (p : Pattern) : Reading Item := do
  if !behind then return ⟨look wanted 0 p, .plain⟩
  match (p.width (← get).widthOf).fixed? with
  | some width => return ⟨look wanted width p, .plain⟩
  | none =>
    modify fun st => { st with loose := true }
    return ⟨empty, .plain⟩

mutual

/-- Choices up to a closing parenthesis or the end, after those already read. Marks for the whole
pattern may stand in front of the first one. -/
def readChoices : (fuel : Nat) → (mayMark : Bool) → List Pattern → Reading Pattern
  | 0, _, _ => do fail "unexpected end of pattern" (← position)
  | fuel + 1, mayMark, done => do
    let p ← readSequence fuel mayMark []
    if ← skip '|' then readChoices fuel false (p :: done)
    else return choice (p :: done).reverse

/-- Items up to a bar, a closing parenthesis or the end, after those already read. -/
def readSequence : (fuel : Nat) → (mayMark : Bool) → List Item → Reading Pattern
  | 0, _, _ => do fail "unexpected end of pattern" (← position)
  | fuel + 1, mayMark, done => do
    let start ← position
    match ← next? with
    | none => return sequenceOf done
    | some t =>
      if t = "|" || t = ")" then return sequenceOf done
      drop
      let spaced := (← get).manner.spaced
      if spaced && isPadding t then readSequence fuel mayMark done
      else if spaced && t = "#" then
        skipLine ((← get).tokens.left.length + 1)
        readSequence fuel mayMark done
      else if t = "(" then
        match ← readParenthesis fuel (mayMark && done.isEmpty) start with
        | some item => readSequence fuel mayMark (item :: done)
        | none => readSequence fuel mayMark done
      else
        match ← readCount? t with
        | some count => readSequence fuel mayMark (← repeatLast start count done)
        | none => readSequence fuel mayMark ((← readSimple start t) :: done)

/-- What a parenthesis at a position opens, after the parenthesis; nothing for remarks and
marks. -/
def readParenthesis : (fuel : Nat) → (mayMark : Bool) → (start : Nat) → Reading (Option Item)
  | 0, _, start => fail "unexpected end of pattern" start
  | fuel + 1, mayMark, start => do
    match ← take (readOpening start) with
    | .remark => return none
    | .marks added =>
      setMarks start mayMark added
      return none
    | .same name => return some (← callNamed name)
    | .group name =>
      let number ← openGroup name
      let p ← readChoices fuel false []
      closeParenthesis start
      closeGroup number p
      return some ⟨group number p, .plain⟩
    | .plain added removed =>
      let outer := (← get).manner
      modify fun st => { st with manner := outer.change added removed }
      let p ← readChoices fuel false []
      closeParenthesis start
      modify fun st => { st with manner := outer }
      return some ⟨p, .plain⟩
    | .atomic =>
      let p ← readChoices fuel false []
      closeParenthesis start
      return some ⟨atomic p, .plain⟩
    | .look wanted behind =>
      let outer := (← get).behind
      if behind && outer.isNone then
        modify fun st => { st with behind := some st.widths.length }
      let p ← readChoices fuel false []
      modify fun st => { st with behind := outer }
      closeParenthesis start
      return some (← lookItem wanted behind p)
    | .test name =>
      let number ← testedGroup name
      checkLookBack number
      let p ← readSequence fuel false []
      let q ← if ← skip '|' then readSequence fuel false [] else pure empty
      if (← next?) == some "|" then
        fail "conditional backref with more than two branches" (← position)
      closeParenthesis start
      return some ⟨ifGroup number p q, .plain⟩

end

/-- Read a written pattern: the pattern and the number of its groups. -/
def read (source : Text) : Except Fault (Pattern × Nat) := do
  let tokens ← Tokens.ofText source
  let (p, st) ← (readChoices (4 * source.length + 8) true []).run { tokens }
  if st.marks.has 'a' && st.marks.has 'u' then
    throw ⟨"ASCII and UNICODE flags are incompatible", none, .marks⟩
  if !st.tokens.left.isEmpty then throw (.here "unbalanced parenthesis" st.tokens.position)
  match st.asked.find? (st.widths.length < ·.1) with
  | some (number, place) =>
    throw (.here ("invalid group reference " ++ Text.ofNat number) place)
  | none => pure ()
  if st.loose then throw (.overall "look-behind requires fixed-width pattern")
  return (p, st.widths.length)

end LintMend.Pattern
