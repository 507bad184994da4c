/-
LintMend.Yaml.Token — the tokens of a YAML document.

Indentation is turned into tokens that open and close blocks. A key needs no mark of its own:
whatever may be one is remembered, and the mark is put before it when its colon comes, if that
is on the same line and not too far away.

Where a text is faulty its tokens end. Since a token is only known once it is sure that no mark of
a key comes before it, they may end some way before the fault.

  `Yaml.Token`       — the tokens
  `Yaml.TokenStream` — tokens with their places, and how they end
  `Yaml.tokens`      — the tokens of a text
-/
import LintMend.Yaml.Block
import LintMend.Yaml.Name
import LintMend.Yaml.Plain
import LintMend.Yaml.Quoted

namespace LintMend.Yaml

/-- A token. -/
inductive Token where
  | directive (d : Directive)
  | documentStart
  | documentEnd
  | openBlockList
  | openBlockMap
  | closeBlock
  | openList
  | closeList
  | openMap
  | closeMap
  | item
  | comma
  | key
  | value
  | alias (name : Text)
  | anchor (name : Text)
  | tag (handle : Option Text) (rest : Text)
  | scalar (plain : Bool) (text : Text)
  /-- The end of all tokens. -/
  | theEnd
  deriving DecidableEq, Repr

/-- How messages speak of a token. -/
def Token.shown : Token → Text
  | .directive _ => "<directive>"
  | .documentStart => "<document start>"
  | .documentEnd => "<document end>"
  | .openBlockList => "<block sequence start>"
  | .openBlockMap => "<block mapping start>"
  | .closeBlock => "<block end>"
  | .openList => "["
  | .closeList => "]"
  | .openMap => "\x7b"
  | .closeMap => "\x7d"
  | .item => "-"
  | .comma => ","
  | .key => "?"
  | .value => ":"
  | .alias _ => "<alias>"
  | .anchor _ => "<anchor>"
  | .tag .. => "<tag>"
  | .scalar .. => "<scalar>"
  | .theEnd => "<stream end>"

/-- A token and where it stands. -/
structure Lexeme where
  token : Token
  start : Spot
  stop : Spot
  deriving DecidableEq, Repr

/-- Something else than a token is expected. -/
def Lexeme.unlike (l : Lexeme) (doing : Text) (began : Spot) (expected found : Text) : Fault :=
  .problem (some ⟨doing, some began⟩)
    ("expected " ++ expected ++ ", but " ++ found ++ " " ++ l.token.shown.quoted) l.start

/-- Tokens, and the place where they end or the fault that ends them. -/
structure TokenStream where
  lexemes : List Lexeme
  ending : Except Fault Spot

/-- What may turn out to be a key: where it starts, and how many tokens precede it. -/
structure MaybeKey where
  before : Nat
  required : Bool
  start : Cursor

/-- What is known while a text is cut into tokens. -/
structure Lexing where
  cursor : Cursor
  tokens : Array Lexeme := #[]
  /-- How many brackets are open. -/
  flow : Nat := 0
  /-- The indentation of the innermost block, and of those around it. -/
  indent : Int := -1
  outer : List Int := []
  /-- Whether a key may start here. -/
  mayStartKey : Bool := true
  /-- What may be a key, for each number of open brackets. -/
  keys : List (Nat × MaybeKey) := []

namespace Lexing

/-- Whether the place is outside of brackets. -/
def inBlock (s : Lexing) : Bool :=
  s.flow == 0

/-- Add a token that ends at a place, and go on from there. -/
def push (s : Lexing) (t : Token) (next : Cursor) : Lexing :=
  { s with cursor := next, tokens := s.tokens.push ⟨t, s.cursor.spot, next.spot⟩ }

/-- Go past some code points and add a token. -/
def take (s : Lexing) (n : Nat) (t : Token) : Lexing :=
  s.push t (s.cursor.advanceBy n)

/-- Close the blocks that are indented more than a column. -/
def closeTo (s : Lexing) (column : Int) : Lexing :=
  if s.inBlock then
    let closed := (s.indent :: s.outer).takeWhile fun n => decide (n > column)
    let left := (s.indent :: s.outer).drop closed.length
    { s with
      indent := left.headD (-1)
      outer := left.drop 1
      tokens := s.tokens ++ closed.map fun _ =>
        (⟨.closeBlock, s.cursor.spot, s.cursor.spot⟩ : Lexeme) }
  else s

/-- Open a block at a place, if it is indented more than what is around it, with its token put
at a position among the tokens. -/
def openAt (s : Lexing) (place : Spot) (position : Nat) (t : Token) : Lexing :=
  if s.indent < (place.column : Int) then
    { s with
      indent := place.column
      outer := s.indent :: s.outer
      tokens := s.tokens.insertIdxIfInBounds position ⟨t, place, place⟩ }
  else s

/-- Open a block here. -/
def openHere (s : Lexing) (t : Token) : Lexing :=
  s.openAt s.cursor.spot s.tokens.size t

/-- A key lacks its colon. -/
def keyFault (s : Lexing) (k : MaybeKey) : Fault :=
  s.cursor.fault "while scanning a simple key" k.start.spot "could not find expected ':'"

/-- Forget what might have been a key, unless it has to be one. -/
def dropKey (s : Lexing) : Except Fault Lexing :=
  match s.keys.lookup s.flow with
  | some k =>
    if k.required then .error (s.keyFault k)
    else .ok { s with keys := s.keys.filter (·.1 != s.flow) }
  | none => .ok s

/-- The greatest distance of a key's start from its colon. -/
def keyLimit : Nat := 1024

/-- Whether what may be a key can no longer be one. -/
def isStale (s : Lexing) (k : MaybeKey) : Bool :=
  k.start.line != s.cursor.line || decide (s.cursor.index - k.start.index > keyLimit)

/-- Forget what can no longer be a key, unless it has to be one. -/
def dropStale (s : Lexing) : Except Fault Lexing :=
  match s.keys.reverse.find? fun (_, k) => k.required && s.isStale k with
  | some (_, k) => .error (s.keyFault k)
  | none => .ok { s with keys := s.keys.filter fun (_, k) => !s.isStale k }

/-- Remember that what starts here may be a key. -/
def saveKey (s : Lexing) : Except Fault Lexing :=
  if s.mayStartKey then
    match s.dropKey with
    | .error fault => .error fault
    | .ok s =>
      let required := s.inBlock && s.indent == (s.cursor.column : Int)
      .ok { s with keys := (s.flow, ⟨s.tokens.size, required, s.cursor⟩) :: s.keys }
  else .ok s

/-- Go past blanks, comments and line ends to the next token. -/
def skip : (fuel : Nat) → Lexing → Lexing
  | 0, s => s
  | fuel + 1, s =>
    let c := s.cursor.skipSpaces
    let c := if c.sees '#' then c.skipLine else c
    match c.takeBreak with
    | ([], _) => { s with cursor := c }
    | (_, next) =>
      skip fuel { s with cursor := next, mayStartKey := s.mayStartKey || s.inBlock }

/-- The end of the text. -/
def finish (s : Lexing) : Except Fault Lexing :=
  (s.closeTo (-1)).dropKey

/-- A token that ends all blocks. -/
def takeMark (s : Lexing) (n : Nat) (t : Token) : Except Fault Lexing := do
  let s ← (s.closeTo (-1)).dropKey
  return { s.take n t with mayStartKey := false }

/-- A directive. -/
def takeDirective (s : Lexing) : Except Fault Lexing := do
  let s ← (s.closeTo (-1)).dropKey
  let (d, c) ← directive s.cursor
  return { s.push (.directive d) c with mayStartKey := false }

/-- An opening bracket. -/
def takeOpening (s : Lexing) (t : Token) : Except Fault Lexing := do
  let s ← s.saveKey
  return { s.take 1 t with flow := s.flow + 1, mayStartKey := true }

/-- A closing bracket. -/
def takeClosing (s : Lexing) (t : Token) : Except Fault Lexing := do
  let s ← s.dropKey
  return { s.take 1 t with flow := s.flow - 1, mayStartKey := false }

/-- A comma within brackets. -/
def takeComma (s : Lexing) : Except Fault Lexing := do
  let s ← s.dropKey
  return { s.take 1 .comma with mayStartKey := true }

/-- What is found where none of its kind may stand. -/
def misplaced (s : Lexing) (what : Text) : Fault :=
  .problem none (what ++ " are not allowed here") s.cursor.spot

/-- The mark of an item. -/
def takeItem (s : Lexing) : Except Fault Lexing := do
  if s.inBlock && !s.mayStartKey then throw (s.misplaced "sequence entries")
  let s := if s.inBlock then s.openHere .openBlockList else s
  let s ← s.dropKey
  return { s.take 1 .item with mayStartKey := true }

/-- The mark of a key. -/
def takeKey (s : Lexing) : Except Fault Lexing := do
  if s.inBlock && !s.mayStartKey then throw (s.misplaced "mapping keys")
  let s := if s.inBlock then s.openHere .openBlockMap else s
  let s ← s.dropKey
  return { s.take 1 .key with mayStartKey := s.inBlock }

/-- The colon before a value. -/
def takeValue (s : Lexing) : Except Fault Lexing := do
  match s.keys.lookup s.flow with
  | some k =>
    let place := k.start.spot
    let s := { s with
      keys := s.keys.filter (·.1 != s.flow)
      tokens := s.tokens.insertIdxIfInBounds k.before ⟨.key, place, place⟩ }
    let s := if s.inBlock then s.openAt place k.before .openBlockMap else s
    return { s.take 1 .value with mayStartKey := false }
  | none =>
    if s.inBlock && !s.mayStartKey then throw (s.misplaced "mapping values")
    let s := if s.inBlock then s.openHere .openBlockMap else s
    let s ← s.dropKey
    return { s.take 1 .value with mayStartKey := s.inBlock }

/-- An anchor or alias. -/
def takeName (s : Lexing) (what : Text) (make : Text → Token) : Except Fault Lexing := do
  let s ← s.saveKey
  let (t, c) ← name what s.cursor
  return { s.push (make t) c with mayStartKey := false }

/-- A tag. -/
def takeTag (s : Lexing) : Except Fault Lexing := do
  let s ← s.saveKey
  let ((h, t), c) ← tag s.cursor
  return { s.push (.tag h t) c with mayStartKey := false }

/-- A block scalar. -/
def takeBlock (s : Lexing) (folded : Bool) : Except Fault Lexing := do
  let s ← s.dropKey
  let (t, c) ← block folded s.indent s.cursor
  return { s.push (.scalar false t) c with mayStartKey := true }

/-- A quoted scalar. -/
def takeQuoted (s : Lexing) (double : Bool) : Except Fault Lexing := do
  let s ← s.saveKey
  let (t, c) ← quoted double s.cursor
  return { s.push (.scalar false t) c with mayStartKey := false }

/-- A plain scalar. -/
def takePlain (s : Lexing) : Except Fault Lexing := do
  let s ← s.saveKey
  let (t, lineEnded, c) := plain (!s.inBlock) (s.indent + 1) s.cursor
  return { s.push (.scalar true t) c with mayStartKey := lineEnded }

/-- Whether a plain scalar may start with a code point that is followed by some text. -/
def startsPlain (inFlow : Bool) (c : CodePoint) (after : Text) : Bool :=
  !(isBlank c || isBreak c || isOneOf "-?:,[]\x7b\x7d#&*!|>'\"%@`" c) ||
    (!atGap after && (c == '-' || (!inFlow && (c == '?' || c == ':'))))

/-- Take the next token, which starts with the given code point. -/
def takeToken (s : Lexing) (c : CodePoint) (after : Text) : Except Fault Lexing :=
  let text := c :: after
  let atStart := s.cursor.column == 0
  let apart := !s.inBlock || atGap after
  if atStart && c == '%' then s.takeDirective
  else if atStart && Text.startsWith "---" text && atGap (text.drop 3) then
    s.takeMark 3 .documentStart
  else if atStart && Text.startsWith "..." text && atGap (text.drop 3) then
    s.takeMark 3 .documentEnd
  else if c = '[' then s.takeOpening .openList
  else if c = '\x7b' then s.takeOpening .openMap
  else if c = ']' then s.takeClosing .closeList
  else if c = '\x7d' then s.takeClosing .closeMap
  else if c = ',' then s.takeComma
  else if c == '-' && atGap after then s.takeItem
  else if c == '?' && apart then s.takeKey
  else if c == ':' && apart then s.takeValue
  else if c = '*' then s.takeName "alias" .alias
  else if c = '&' then s.takeName "anchor" .anchor
  else if c = '!' then s.takeTag
  else if c == '|' && s.inBlock then s.takeBlock false
  else if c == '>' && s.inBlock then s.takeBlock true
  else if c = '\'' then s.takeQuoted false
  else if c = '"' then s.takeQuoted true
  else if startsPlain (!s.inBlock) c after then s.takePlain
  else
    .error (.problem (some ⟨"while scanning for the next token", none⟩)
      ("found character " ++ s.cursor.shownNext ++ " that cannot start any token") s.cursor.spot)

/-- How many of the tokens are known to have no mark of a key before them. -/
def known (s : Lexing) : Nat :=
  s.keys.foldl (fun n (_, k) => min n k.before) s.tokens.size

/-- The tokens that are known when a fault is found. -/
def broken (s : Lexing) (fault : Fault) : TokenStream :=
  ⟨s.tokens.toList.take s.known, .error fault⟩

/-- Go to the next token, and close the blocks that end before it. -/
def nextToken (s : Lexing) : Except Fault Lexing := do
  let s ← (skip (s.cursor.rest.length + 1) s).dropStale
  return s.closeTo s.cursor.column

/-- Take all tokens that are left. -/
def run : (fuel : Nat) → Lexing → TokenStream
  | 0, s => ⟨s.tokens.toList, .ok s.cursor.spot⟩
  | fuel + 1, s =>
    match s.nextToken with
    | .error fault => s.broken fault
    | .ok t =>
      match t.cursor.rest with
      | [] =>
        match t.finish with
        | .error fault => s.broken fault
        | .ok last => ⟨last.tokens.toList, .ok last.cursor.spot⟩
      | c :: after =>
        match (t.takeToken c after).bind dropStale with
        | .error fault => s.broken fault
        | .ok next => run fuel next

end Lexing

/-- The first code point that may not stand in a document. -/
def unprintable? (index : Nat) : Text → Option Fault
  | [] => none
  | c :: rest => if isPrintable c then unprintable? (index + 1) rest else some (.unprintable c index)

/-- The tokens of a text. A mark of byte order at its start is overlooked. -/
def tokens (t : Text) : Except Fault TokenStream :=
  match unprintable? 0 t with
  | some fault => .error fault
  | none =>
    let c := Cursor.start t
    let c := if c.sees ⟨0xFEFF⟩ then c.advance else c
    .ok (Lexing.run (t.length + 1) { cursor := c })

end LintMend.Yaml
