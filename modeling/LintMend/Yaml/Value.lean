/-
LintMend.Yaml.Value — the data that a YAML document holds.

Of several entries of a mapping with one key, the last counts. Mappings are merged into others
where the merge key asks for it; an entry of the mapping itself overrides a merged one, and of a
list of merged mappings the first overrides the others.

  `Node.datum` — the data of a node
  `Yaml.read`  — the data of a text
-/
import LintMend.Text.Base64
import LintMend.Text.Quoted
import LintMend.Validation.Coerce
import LintMend.Validation.Mapping
import LintMend.Yaml.Node
import LintMend.Yaml.Time

namespace LintMend

namespace Yaml

/-- The words in which a number of another base is refused. -/
def badNumber (base : Nat) (digits : Text) : Failure :=
  .badValue ("invalid literal for int() with base " ++ Text.ofNat base ++ ": '" ++ digits ++ "'")

/-- The number of a text of digits. -/
def digitsIn (base : Nat) (t : Text) : Except Failure Nat :=
  match t.mapM Json.hexValue? with
  | some digits =>
    if digits.isEmpty || digits.any fun d => decide (base ≤ d) then .error (badNumber base t)
    else if base = 10 ∧ Json.digitLimit < digits.length then
      .error (.badValue (Json.tooManyDigitsMessage digits.length))
    else .ok (digits.foldl (fun n d => base * n + d) 0)
  | none => .error (badNumber base t)

/-- A text without low lines, and its sign. -/
def signed (t : Text) : Bool × Text :=
  let u : Text := t.filter fun c => !(c == '_')
  (u.head? == some '-', dropSign u)

/-- A number of which nothing is left. -/
def noNumber : Failure := .slip .index "string index out of range"

/-- The whole number that a scalar writes. -/
def intOf (t : Text) : Except Failure Int := do
  let (negative, u) := signed t
  let n ← match u with
    | [] => throw noNumber
    | ⟨0x30⟩ :: ⟨0x62⟩ :: digits => digitsIn 2 digits
    | ⟨0x30⟩ :: ⟨0x78⟩ :: digits => digitsIn 16 digits
    | ⟨0x30⟩ :: _ => digitsIn 8 u
    | _ => (Text.splitAt ':' u).foldlM (fun n part => (digitsIn 10 part).map (60 * n + ·)) 0
  return if negative then -(n : Int) else n

/-- The number that the digits of base sixty make, the least significant first. -/
def sixtieths (unit : Nat) : List Float → Float → Float
  | [], sum => sum
  | x :: rest, sum => sixtieths (60 * unit) rest (sum + x * (floatOfInt? unit).getD infinity)

/-- The number that a scalar writes. -/
def floatOf (t : Text) : Except Failure Float :=
  let (negative, u) := signed t
  let low := u.toLower
  let apply (x : Float) : Float := if negative then -x else x
  if t.all (· == '_') then .error noNumber
  else if low = ".inf" then .ok (apply infinity)
  else if low = ".nan" then .ok notANumber
  else
    match (Text.splitAt ':' low).mapM Validation.plainFloat? with
    | some [x] => .ok (apply x)
    | some parts => .ok (apply (sixtieths 1 parts.reverse 0.0))
    | none => .error (.badValue ("could not convert string to float: " ++ low.quoted))

/-- A result that may be a failure, as data of a document. -/
def built {α : Type} (r : Except Failure α) : Except Fault α :=
  r.mapError .value

/-- The code points at the start of a text that are not basic Latin, in words. -/
def strangeText (position : Nat) (t : Text) : Text :=
  match t.takeWhile fun c => decide (0x80 ≤ c.val) with
  | [c] =>
    "character " ++ Text.quoted [c] ++ " in position " ++ Text.ofNat position
  | several =>
    "characters in position " ++ Text.ofNat position ++ "-" ++
      Text.ofNat (position + several.length - 1)

namespace Node

/-- What is being made of a list of pairs. -/
def pairsDoing (ordered : Bool) : Text :=
  if ordered then "while constructing an ordered map" else "while constructing pairs"

/-- A problem with a node as such. -/
def fault (n : Node) (what : Text) : Fault :=
  .problem none what n.start

/-- A problem with a node within another. -/
def faultWithin (n : Node) (doing : Text) (began : Spot) (what : Text) : Fault :=
  .problem (some ⟨doing, some began⟩) what n.start

/-- A node of a kind that is not known. -/
def unknownKind (n : Node) (tag : Text) : Fault :=
  n.fault ("could not determine a constructor for the tag " ++ tag.quoted)

/-- A node that does not have the shape of its kind. -/
def misshapen (n : Node) : Fault :=
  match n.kind with
  | .merge => n.unknownKind (standardTags ++ "merge")
  | .value => n.unknownKind (standardTags ++ "value")
  | .other tag => n.unknownKind tag
  | .orderedMap =>
    n.faultWithin (pairsDoing true) n.start ("expected a sequence, but found " ++ n.shape)
  | .pairs =>
    n.faultWithin (pairsDoing false) n.start ("expected a sequence, but found " ++ n.shape)
  | .list => n.fault ("expected a sequence node, but found " ++ n.shape)
  | .map | .set => n.fault ("expected a mapping node, but found " ++ n.shape)
  | _ => n.fault ("expected a scalar node, but found " ++ n.shape)

/-- The bytes that a scalar writes. -/
def binaryDatum (n : Node) (t : Text) : Except Fault Datum :=
  let plain := t.takeWhile fun c => decide (c.val < 0x80)
  if plain.length < t.length then
    .error (n.fault ("failed to convert base64 data into ascii: 'ascii' codec can't encode " ++
      strangeText plain.length (t.drop plain.length) ++ ": ordinal not in range(128)"))
  else
    match Base64.decode t with
    | .ok bytes => .ok (.bytes bytes)
    | .error e => .error (n.fault ("failed to decode base64 data: " ++ e.message))

/-- The data of a scalar. -/
def scalarDatum (n : Node) (t : Text) : Except Fault Datum :=
  match n.kind with
  | .null => .ok .null
  | .bool =>
    match boolWords.lookup t.toLower with
    | some b => .ok (.bool b)
    | none => .error (.value (.slip .key t.toLower.quoted))
  | .int => (built (intOf t)).map .int
  | .float => (built (floatOf t)).map .float
  | .text => .ok (.text t)
  | .binary => n.binaryDatum t
  | .time =>
    match timeText? t with
    | some time => (built time.check).map fun _ => .time t
    | none => .error (.value (.slip .part "'NoneType' object has no attribute 'groupdict'"))
  | _ => .error n.misshapen

/-- What is being made of a mapping. -/
def mapDoing : Text := "while constructing a mapping"

/-- A key, which must not be a list or a mapping. -/
def checkKey (n : Node) (began : Spot) (key : Datum) : Except Fault Datum :=
  if key.canBeKey then .ok key
  else .error (n.faultWithin mapDoing began "found unhashable key")

/-- An item of a list of pairs that is no pair. -/
def pairFault (n : Node) (ordered : Bool) (began : Spot) : Fault :=
  n.faultWithin (pairsDoing ordered) began (match n with
    | map _ entries _ =>
      "expected a single mapping item, but found " ++ Text.ofNat entries.length ++ " items"
    | _ => "expected a mapping of length 1, but found " ++ n.shape)

mutual

/-- The data of a node. -/
def datum : Node → Except Fault Datum
  | scalar k t s => scalarDatum (scalar k t s) t
  | list k items s =>
    match k with
    | .list => (itemData items).map .list
    | .orderedMap => (pairData true s items).map .list
    | .pairs => (pairData false s items).map .list
    | _ => .error (list k items s).misshapen
  | map k entries s =>
    match k with
    | .map => (fields s entries).map fun (merged, own) => .mapping (Datum.ofEntries (merged ++ own))
    | .set =>
      (fields s entries).map fun (merged, own) =>
        .set ((Datum.ofEntries (merged ++ own)).map (·.1))
    | _ => .error (map k entries s).misshapen

/-- The data of several nodes. -/
def itemData : List Node → Except Fault (List Datum)
  | [] => .ok []
  | n :: rest => do return (← datum n) :: (← itemData rest)

/-- The data of nodes that are mappings of one entry each. -/
def pairData (ordered : Bool) (began : Spot) : List Node → Except Fault (List Datum)
  | [] => .ok []
  | n :: rest => do
    match n with
    | map _ [(k, v)] _ =>
      return .tuple [← datum k, ← datum v] :: (← pairData ordered began rest)
    | _ => throw (n.pairFault ordered began)

/-- The entries of a mapping that begins at a place: those that are merged into it, and its
own. -/
def fields (began : Spot) :
    List (Node × Node) → Except Fault (List (Datum × Datum) × List (Datum × Datum))
  | [] => .ok ([], [])
  | (k, v) :: rest => do
    if k.kind = .merge then
      let first ← mergedFrom began v
      let (merged, own) ← fields began rest
      return (first ++ merged, own)
    else
      let key ← if k.kind = .value then pure (Datum.text "=") else datum k
      let key ← k.checkKey began key
      let value ← datum v
      let (merged, own) ← fields began rest
      return (merged, (key, value) :: own)

/-- What a mapping, or a list of mappings, brings when it is merged into another. -/
def mergedFrom (began : Spot) : Node → Except Fault (List (Datum × Datum))
  | map _ entries s => do
    let (merged, own) ← fields s entries
    return merged ++ own
  | list _ items _ => mergedFromAll began items
  | scalar k t s =>
    .error ((scalar k t s).faultWithin mapDoing began
      "expected a mapping or list of mappings for merging, but found scalar")

/-- What mappings bring when they are merged into another, the last one first. -/
def mergedFromAll (began : Spot) : List Node → Except Fault (List (Datum × Datum))
  | [] => .ok []
  | n :: rest => do
    match n with
    | map _ entries s =>
      let (merged, own) ← fields s entries
      return (← mergedFromAll began rest) ++ (merged ++ own)
    | _ =>
      throw (n.faultWithin mapDoing began ("expected a mapping for merging, but found " ++ n.shape))

end

end Node

/-- The data of a text's one document; nothing if there is none. -/
def read (t : Text) : Except Failure Datum :=
  Except.mapError (Fault.failure t) do
    match ← Node.ofTokens (← tokens t) with
    | none => return .null
    | some n => n.datum

end Yaml

end LintMend
