/-
LintMend.Yaml.Node — the nodes of a YAML document.

A node is a scalar, a list or a mapping, with a kind. An alias stands for the node that its
anchor marks; within that node itself, it stands for an empty one.

  `Yaml.Node`    — the nodes
  `Node.ofTokens` — the node of a document
-/
import LintMend.Text.Quoted
import LintMend.Yaml.Scalar
import LintMend.Yaml.Token

namespace LintMend.Yaml

/-- A node, and where it starts. -/
inductive Node where
  | scalar (kind : Kind) (text : Text) (start : Spot)
  | list (kind : Kind) (items : List Node) (start : Spot)
  | map (kind : Kind) (entries : List (Node × Node)) (start : Spot)
  deriving Repr

namespace Node

/-- The kind of a node. -/
def kind : Node → Kind
  | scalar k _ _ => k
  | list k _ _ => k
  | map k _ _ => k

/-- Where a node starts. -/
def start : Node → Spot
  | scalar _ _ s => s
  | list _ _ s => s
  | map _ _ s => s

/-- How messages speak of a node. -/
def shape : Node → Text
  | scalar .. => "scalar"
  | list .. => "sequence"
  | map .. => "mapping"

/-- The node of what is left out at a place. -/
def absent (s : Spot) : Node := scalar .null [] s

/-- The tags that handles stand for. -/
abbrev Handles := List (Text × Text)

/-- The handles that are always known. -/
def standardHandles : Handles := [("!", "!"), ("!!", standardTags)]

/-- What is left to read, and the nodes that anchors mark. -/
structure Reading where
  left : TokenStream
  anchors : List (Text × Node) := []

namespace Reading

/-- The next token. A stream that a fault ends has none after its last. -/
def next (r : Reading) : Except Fault Lexeme :=
  match r.left.lexemes with
  | l :: _ => .ok l
  | [] => r.left.ending.map fun s => ⟨.theEnd, s, s⟩

/-- What follows the next token. -/
def drop (r : Reading) : Reading :=
  { r with left := { r.left with lexemes := r.left.lexemes.drop 1 } }

end Reading

/-- What stands before a node: anchor, and tag. -/
structure Properties where
  anchor : Option Text := none
  /-- The tag; an exclamation mark alone asks for the usual kind. -/
  tag : Option Text := none
  /-- Where the properties start, if there are any. -/
  start : Option Spot := none

/-- A tag with its handle replaced. -/
def fullTag (handles : Handles) (began : Spot) (place : Spot) (handle : Option Text)
    (rest : Text) : Except Fault Text :=
  match handle with
  | none => .ok rest
  | some h =>
    match handles.lookup h with
    | some start => .ok (start ++ rest)
    | none =>
      .error (.problem (some ⟨"while parsing a node", some began⟩)
        ("found undefined tag handle " ++ h.quoted) place)

/-- The properties of a node: an anchor and a tag in either order. -/
def properties (handles : Handles) (r : Reading) : Except Fault (Properties × Reading) := do
  let first ← r.next
  match first.token with
  | .anchor a =>
    let r := r.drop
    let second ← r.next
    match second.token with
    | .tag h t =>
      let t ← fullTag handles first.start second.start h t
      return (⟨some a, some t, some first.start⟩, r.drop)
    | _ => return (⟨some a, none, some first.start⟩, r)
  | .tag h t =>
    let r := r.drop
    let second ← r.next
    let t ← fullTag handles first.start first.start h t
    match second.token with
    | .anchor a => return (⟨some a, some t, some first.start⟩, r.drop)
    | _ => return (⟨none, some t, some first.start⟩, r)
  | _ => return ({}, r)

/-- The kind of a node, given the usual one. -/
def Properties.kind (p : Properties) (usual : Kind) : Kind :=
  match p.tag with
  | none => usual
  | some t => if t = "!" then usual else .ofTag t

/-- The kind of a scalar. A plain one, and one with an exclamation mark, is looked at. -/
def Properties.scalarKind (p : Properties) (plain : Bool) (t : Text) : Kind :=
  p.kind (if plain || p.tag.isSome then kindOf t else .text)

/-- Remember the node that an anchor marks. -/
def Reading.mark (r : Reading) (p : Properties) (n : Node) : Reading :=
  match p.anchor with
  | some a => { r with anchors := (a, n) :: r.anchors }
  | none => r

/-- The anchor of a node must not mark another one already. -/
def Reading.checkAnchor (r : Reading) (p : Properties) (place : Spot) : Except Fault Unit :=
  match p.anchor with
  | none => .ok ()
  | some a =>
    match r.anchors.lookup a with
    | none => .ok ()
    | some n =>
      .error (.problem
        (some ⟨"found duplicate anchor " ++ a.quoted ++ "; first occurrence", some n.start⟩)
        "second occurrence" place)

/-- Where a node stands, which says what it may be. -/
inductive Place where
  | bracket
  | block
  /-- A value of a block mapping, which may be a list that is not indented. -/
  | value
  deriving DecidableEq, Repr

/-- What is being read at a place. -/
def Place.doing : Place → Text
  | .bracket => "while parsing a flow node"
  | _ => "while parsing a block node"

/-- Whether the item of a list is left out before a token. -/
def endsItem (t : Token) (indented : Bool) : Bool :=
  match t with
  | .item | .closeBlock => true
  | .key | .value => !indented
  | _ => false

/-- Whether a key or value of a block mapping is left out before a token. -/
def endsEntry (t : Token) : Bool :=
  match t with
  | .key | .value | .closeBlock => true
  | _ => false

/-- What is read in brackets that a token closes. -/
def bracketDoing (close : Token) : Text :=
  if close = .closeList then "while parsing a flow sequence" else "while parsing a flow mapping"

/-- Go past the comma between two entries in brackets. -/
def Reading.separated (r : Reading) (close : Token) (began : Spot) (first : Bool) :
    Except Fault Reading := do
  if first then return r
  let l ← r.next
  if l.token = .comma then return r.drop
  else
    throw (l.unlike (bracketDoing close) began ("',' or " ++ close.shown.quoted) "got")

/-- Reading never takes more steps than it is given. -/
def outOfSteps : Fault := .problem none "found too many steps" ⟨0, 0, 0⟩

mutual

/-- A node. -/
def read (handles : Handles) : (fuel : Nat) → Place → Reading → Except Fault (Node × Reading)
  | 0, _, _ => .error outOfSteps
  | fuel + 1, place, r => do
    let first ← r.next
    match first.token with
    | .alias a =>
      match r.anchors.lookup a with
      | some n => return (n, r.drop)
      | none => throw (.problem none ("found undefined alias " ++ a.quoted) first.start)
    | _ =>
      let (p, r) ← properties handles r
      let l ← r.next
      let start := first.start
      r.checkAnchor p start
      match l.token with
      | .item =>
        if place = .value then
          let k := p.kind .list
          let (items, r) ← readItems handles fuel none (r.mark p (list k [] start))
          let n := list k items start
          return (n, r.mark p n)
        else readEmpty place p start l r
      | .scalar plain t =>
        let n := scalar (p.scalarKind plain t) t start
        return (n, r.drop.mark p n)
      | .openList =>
        let k := p.kind .list
        let (items, r) ← readFlowItems handles fuel l.start true (r.drop.mark p (list k [] start))
        let n := list k items start
        return (n, r.mark p n)
      | .openMap =>
        let k := p.kind .map
        let (entries, r) ←
          readFlowEntries handles fuel l.start true (r.drop.mark p (map k [] start))
        let n := map k entries start
        return (n, r.mark p n)
      | .openBlockList =>
        if place = .bracket then readEmpty place p start l r
        else
          let k := p.kind .list
          let (items, r) ← readItems handles fuel (some l.start) (r.drop.mark p (list k [] start))
          let n := list k items start
          return (n, r.mark p n)
      | .openBlockMap =>
        if place = .bracket then readEmpty place p start l r
        else
          let k := p.kind .map
          let (entries, r) ← readEntries handles fuel l.start (r.drop.mark p (map k [] start))
          let n := map k entries start
          return (n, r.mark p n)
      | _ => readEmpty place p start l r

/-- The empty scalar that properties alone make. -/
def readEmpty (place : Place) (p : Properties) (start : Spot) (l : Lexeme) (r : Reading) :
    Except Fault (Node × Reading) :=
  if p.anchor.isNone && p.tag.isNone then
    .error (l.unlike place.doing start "the node content" "found")
  else
    let n := scalar (p.kind .null) [] start
    .ok (n, r.mark p n)

/-- The items of a block list, which is closed if it is indented; then its start is known. -/
def readItems (handles : Handles) :
    (fuel : Nat) → (indented : Option Spot) → Reading → Except Fault (List Node × Reading)
  | 0, _, _ => .error outOfSteps
  | fuel + 1, indented, r => do
    let l ← r.next
    match l.token, indented with
    | .item, _ =>
      let r := r.drop
      let after ← r.next
      let (n, r) ← if endsItem after.token indented.isSome then pure (absent l.stop, r)
        else read handles fuel .block r
      let (more, r) ← readItems handles fuel indented r
      return (n :: more, r)
    | .closeBlock, some _ => return ([], r.drop)
    | _, some began =>
      throw (l.unlike "while parsing a block collection" began "<block end>" "found")
    | _, none => return ([], r)

/-- The entries of a block mapping. -/
def readEntries (handles : Handles) :
    (fuel : Nat) → (began : Spot) → Reading → Except Fault (List (Node × Node) × Reading)
  | 0, _, _ => .error outOfSteps
  | fuel + 1, began, r => do
    let l ← r.next
    match l.token with
    | .closeBlock => return ([], r.drop)
    | .key =>
      let r := r.drop
      let after ← r.next
      let (k, r) ← if endsEntry after.token then pure (absent l.stop, r)
        else read handles fuel .value r
      let (v, r) ← readValue handles fuel r
      let (more, r) ← readEntries handles fuel began r
      return ((k, v) :: more, r)
    | _ => throw (l.unlike "while parsing a block mapping" began "<block end>" "found")

/-- The value of a key in a block mapping. -/
def readValue (handles : Handles) : (fuel : Nat) → Reading → Except Fault (Node × Reading)
  | 0, _ => .error outOfSteps
  | fuel + 1, r => do
    let l ← r.next
    if l.token = .value then
      let r := r.drop
      let after ← r.next
      if endsEntry after.token then return (absent l.stop, r) else read handles fuel .value r
    else return (absent l.start, r)

/-- A key in brackets before its colon, or a value after it; if it is left out, it counts as
standing at the given place. -/
def readFlowPart (handles : Handles) :
    (fuel : Nat) → (close : Token) → (place : Spot) → Reading → Except Fault (Node × Reading)
  | 0, _, _, _ => .error outOfSteps
  | fuel + 1, close, place, r => do
    let l ← r.next
    if l.token = .comma || l.token = close then return (absent place, r)
    else read handles fuel .bracket r

/-- A key in brackets, after its mark, and its value. -/
def readPair (handles : Handles) : (fuel : Nat) → (close : Token) → (place : Spot) → Reading →
    Except Fault ((Node × Node) × Reading)
  | 0, _, _, _ => .error outOfSteps
  | fuel + 1, close, place, r => do
    let first ← r.next
    let (k, r) ← if first.token = .value then pure (absent place, r)
      else readFlowPart handles fuel close place r
    let l ← r.next
    if l.token = .value then
      let (v, r) ← readFlowPart handles fuel close l.stop r.drop
      return ((k, v), r)
    else return ((k, absent l.start), r)

/-- The items of a list in brackets; a pair is a mapping of one entry. -/
def readFlowItems (handles : Handles) :
    (fuel : Nat) → (began : Spot) → (first : Bool) → Reading → Except Fault (List Node × Reading)
  | 0, _, _, _ => .error outOfSteps
  | fuel + 1, began, first, r => do
    let l ← r.next
    if l.token = .closeList then return ([], r.drop)
    else
      let r ← r.separated .closeList began first
      let l ← r.next
      match l.token with
      | .closeList => return ([], r.drop)
      | .key =>
        let (pair, r) ← readPair handles fuel .closeList l.stop r.drop
        let (more, r) ← readFlowItems handles fuel began false r
        return (map .map [pair] l.start :: more, r)
      | _ =>
        let (n, r) ← read handles fuel .bracket r
        let (more, r) ← readFlowItems handles fuel began false r
        return (n :: more, r)

/-- The entries of a mapping in brackets. -/
def readFlowEntries (handles : Handles) : (fuel : Nat) → (began : Spot) → (first : Bool) →
    Reading → Except Fault (List (Node × Node) × Reading)
  | 0, _, _, _ => .error outOfSteps
  | fuel + 1, began, first, r => do
    let l ← r.next
    if l.token = .closeMap then return ([], r.drop)
    else
      let r ← r.separated .closeMap began first
      let l ← r.next
      match l.token with
      | .closeMap => return ([], r.drop)
      | .key =>
        let (pair, r) ← readPair handles fuel .closeMap l.stop r.drop
        let (more, r) ← readFlowEntries handles fuel began false r
        return (pair :: more, r)
      | _ =>
        let (n, r) ← read handles fuel .bracket r
        let after ← r.next
        let (more, r) ← readFlowEntries handles fuel began false r
        return ((n, absent after.start) :: more, r)

end

/-- A fault of a directive. -/
def directiveFault (what : Text) (l : Lexeme) : Fault :=
  .problem none what l.start

/-- The handles that directives define. No handle may be defined twice, and only the first
version of the format is known. -/
def readDirectives (ending : Except Fault Spot) :
    List Lexeme → (version : Bool) → Handles → Except Fault (Handles × Reading)
  | [], _, handles => .ok (handles, { left := ⟨[], ending⟩ })
  | l :: rest, version, handles =>
    match l.token with
    | .directive (.version major) =>
      if version then .error (directiveFault "found duplicate YAML directive" l)
      else if major != 1 then
        .error (directiveFault "found incompatible YAML document (version 1.* is required)" l)
      else readDirectives ending rest true handles
    | .directive (.handle name start) =>
      if (handles.lookup name).isSome then
        .error (directiveFault ("duplicate tag handle " ++ name.quoted) l)
      else readDirectives ending rest version (handles ++ [(name, start)])
    | .directive .unknown => readDirectives ending rest version handles
    | _ => .ok (handles, { left := ⟨l :: rest, ending⟩ })

/-- The start of a document that is marked: its handles, and what follows its mark. -/
def readStart (left : TokenStream) : Except Fault (Handles × Reading) := do
  let (handles, r) ← readDirectives left.ending left.lexemes false []
  let l ← r.next
  if l.token = .documentStart then return (handles, r.drop)
  else
    throw (.problem none
      ("expected '<document start>', but found " ++ l.token.shown.quoted) l.start)

/-- Whether a document has no content before a token. -/
def endsDocument (t : Token) : Bool :=
  match t with
  | .directive _ | .documentStart | .documentEnd | .theEnd => true
  | _ => false

/-- Tokens after the marks of a document's end. -/
def dropEnds (left : TokenStream) : TokenStream :=
  { left with lexemes := left.lexemes.dropWhile (·.token == .documentEnd) }

/-- What follows the one document may only be marks of its end. -/
def checkEnd (n : Node) (r : Reading) : Except Fault Unit := do
  let left := dropEnds r.left
  let l ← { r with left }.next
  if l.token = .theEnd then return ()
  else
    let _ ← readStart left
    throw (.problem (some ⟨"expected a single document in the stream", some n.start⟩)
      "but found another document" l.start)

/-- The node of a document with the given handles. -/
def readDocument (handles : Handles) (r : Reading) : Except Fault Node := do
  let (n, r) ← read handles (4 * r.left.lexemes.length + 8) .block r
  checkEnd n r
  return n

/-- The node of a document that starts with directives or a mark. -/
def readMarked (left : TokenStream) : Except Fault Node := do
  let (handles, r) ← readStart left
  let l ← r.next
  if endsDocument l.token then
    checkEnd (absent l.start) r
    return absent l.start
  else readDocument (handles ++ standardHandles) r

/-- The node of a text's one document; `none` if there is no document. -/
def ofTokens (left : TokenStream) : Except Fault (Option Node) := do
  let r : Reading := { left }
  match (← r.next).token with
  | .theEnd => return none
  | .directive _ | .documentStart => return some (← readMarked left)
  | _ => return some (← readDocument standardHandles r)

end Node

end LintMend.Yaml
