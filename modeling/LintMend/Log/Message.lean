/-
LintMend.Log.Message — messages with places for values.

A percent sign opens a place, and two of them stand for one. After it come, as far as they are
wanted, the name of a value in parentheses, flags, a width, a precision after a point, and last a
letter that says how the value is written. Without names the values are taken in order, and all of
them must be used.

  `Place`    — how a value is written at its place
  `Values`   — the values for the places
  `fillMessage` — a message with its places filled
-/
import LintMend.Decimal.Rounded
import LintMend.Decimal.Reading
import LintMend.Failure
import LintMend.Log.Shown
import LintMend.Text.Case

namespace LintMend.Log

/-- How a value is written at its place. -/
structure Place where
  left : Bool := false
  plus : Bool := false
  blank : Bool := false
  alternate : Bool := false
  zeros : Bool := false
  width : Nat := 0
  precision : Option Nat := none

/-- The values for the places of a message: some in order, or named ones, together with the one
that a place without a name takes. -/
inductive Values where
  | inOrder (items : List Value)
  | named (fields : Fields) (next : Option Value)

namespace Values

/-- The values that are given with a message; a single dictionary names its entries, as far as their
keys are texts. -/
def ofList : List Value → Values
  | [.dict (e :: es)] => .named (.ofEntries (e :: es)) (some (.dict (e :: es)))
  | items => .inOrder items

/-- The next value. -/
def next : Values → Except Failure (Value × Values)
  | .inOrder (v :: rest) => .ok (v, .inOrder rest)
  | .named fields (some v) => .ok (v, .named fields none)
  | _ => .error (.badType "not enough arguments for format string")

/-- Go on with the value of a name. -/
def pick (name : Text) : Values → Except Failure Values
  | .named fields _ =>
    match Fields.get? name fields with
    | some v => .ok (.named fields (some v))
    | none => .error (.slip .key name.quoted)
  | .inOrder _ => .error (.badType "format requires a mapping")

/-- Whether values are left that no place took. -/
def isLeft : Values → Bool
  | .inOrder (_ :: _) => true
  | _ => false

end Values

/-- Fill a text up to a width, on the right for a place that keeps to the left. -/
def Place.pad (p : Place) (t : Text) : Text :=
  let gap : Text := List.replicate (p.width - t.length) ' '
  if p.left then t ++ gap else gap ++ t

/-- A number as sign and base mark, and digits, filled up. -/
def Place.number (p : Place) (negative : Bool) (mark digits : Text) : Text :=
  let sign : Text :=
    if negative then "-" else if p.plus then "+" else if p.blank then " " else []
  let start := sign ++ mark
  if p.zeros && !p.left then
    start ++ (List.replicate (p.width - start.length - digits.length) '0' : Text) ++ digits
  else p.pad (start ++ digits)

/-- A text, cut to the precision. -/
def Place.text (p : Place) (t : Text) : Text :=
  p.pad (match p.precision with
    | some n => t.take n
    | none => t)

/-- A whole number in a base. -/
def Place.whole (p : Place) (base : Nat) (mark : Text) (n : Int) : Text :=
  p.number (n < 0) (if p.alternate then mark else [])
    (Text.ofNatBase base (p.precision.getD 1) n.natAbs)

/-- A number, cut towards zero. -/
def truncated? (x : Float) : Option Int :=
  if x.isNaN || x.isInf then none
  else
    let (num, den) := fractionOf x
    let n : Int := (num / den : Nat)
    some (if x < 0.0 then -n else n)

/-- The whole number that a value is for a place in decimal digits. -/
def wholeOf (letter : CodePoint) : Value → Except Failure Int
  | .int n => .ok n
  | .bool b => .ok (if b then 1 else 0)
  | .float x =>
    match truncated? x with
    | some n => .ok n
    | none =>
      if x.isNaN then .error (.badValue "cannot convert float NaN to integer")
      else .error (.slip .overflow "cannot convert float infinity to integer")
  | v => .error (.badType ("%" ++ [letter] ++ " format: a real number is required, not " ++
      v.kindName))

/-- The whole number that a value is for a place in another base. -/
def strictWholeOf (letter : CodePoint) : Value → Except Failure Int
  | .int n => .ok n
  | .bool b => .ok (if b then 1 else 0)
  | v => .error (.badType ("%" ++ [letter] ++ " format: an integer is required, not " ++
      v.kindName))

/-- The number that a value is. -/
def numberOf : Value → Except Failure Float
  | .float x => .ok x
  | .bool b => .ok (if b then 1.0 else 0.0)
  | .int n =>
    match floatOfInt? n with
    | some x => .ok x
    | none => .error (.slip .overflow "int too large to convert to float")
  | v => .error (.badType ("must be real number, not " ++ v.kindName))

/-- The number of places of a number unless a precision is given. -/
def usualPrecision : Nat := 6

/-- A number in the notation of a letter. -/
def Place.float (p : Place) (letter : CodePoint) (x : Float) : Text :=
  let precision := p.precision.getD usualPrecision
  let negative := x.toBits.toNat / Nat.pow 2 63 == 1 && !x.isNaN
  let (num, den) := fractionOf x
  let small : CodePoint := letter.lowerLatin
  let digits : Text :=
    if x.isNaN then "nan" else if x.isInf then "inf"
    else if small = 'f' then fixedText precision p.alternate num den
    else if small = 'e' then scientificText precision p.alternate num den
    else generalText precision p.alternate num den
  p.number negative [] (if small = letter then digits else digits.toUpper)

/-- A text in quotes, with all that is not basic Latin escaped. -/
def basicLatin (t : Text) : Text :=
  t.flatMap fun c =>
    if c.val < 0x80 then [c]
    else if c.val < 0x100 then "\\x" ++ Text.ofNatBase 16 2 c.val
    else if c.val < 0x10000 then "\\u" ++ Text.ofNatBase 16 4 c.val
    else "\\U" ++ Text.ofNatBase 16 8 c.val

/-- The single code point that a value is. -/
def codePointOf : Value → Except Failure Text
  | .text [c] => .ok [c]
  | .bool b => .ok [⟨if b then 1 else 0⟩]
  | .int n =>
    if 0 ≤ n ∧ n < 0x110000 then .ok [⟨n.toNat⟩]
    else .error (.slip .overflow "%c arg not in range(0x110000)")
  | _ => .error (.badType "%c requires int or char")

/-- Whether a letter writes a number as a decimal fraction. -/
def isFractionLetter (letter : CodePoint) : Bool :=
  letter == 'f' || letter == 'F' || letter == 'e' || letter == 'E' || letter == 'g' || letter == 'G'

/-- A value at its place; `none` for a letter that writes nothing. -/
def Place.write? (p : Place) (letter : CodePoint) (v : Value) : Option (Except Failure Text) :=
  if letter = 's' then some (.ok (p.text v.shown))
  else if letter = 'r' then some (.ok (p.text v.quoted))
  else if letter = 'a' then some (.ok (p.text (basicLatin v.quoted)))
  else if letter = 'd' || letter = 'i' || letter = 'u' then
    some ((wholeOf letter v).map (p.whole 10 []))
  else if letter = 'o' then some ((strictWholeOf letter v).map (p.whole 8 "0o"))
  else if letter = 'x' then some ((strictWholeOf letter v).map (p.whole 16 "0x"))
  else if letter = 'X' then
    some ((strictWholeOf letter v).map fun n => (p.whole 16 "0x" n).toUpper)
  else if letter = 'c' then some ((codePointOf v).map p.pad)
  else if isFractionLetter letter then some ((numberOf v).map (p.float letter))
  else none

/-- The text up to the parenthesis that closes an open one, and what follows it. -/
def untilClosed : (depth : Nat) → Text → Option (Text × Text)
  | _, [] => none
  | depth, c :: rest =>
    if c = ')' then
      match depth with
      | 0 => some ([], rest)
      | d + 1 => (untilClosed d rest).map fun (t, after) => (c :: t, after)
    else
      (untilClosed (if c = '(' then depth + 1 else depth) rest).map fun (t, after) =>
        (c :: t, after)

/-- The flags at the start of a text. -/
def takeFlags (p : Place) : Text → Place × Text
  | [] => (p, [])
  | c :: rest =>
    if c = '-' then takeFlags { p with left := true } rest
    else if c = '+' then takeFlags { p with plus := true } rest
    else if c = ' ' then takeFlags { p with blank := true } rest
    else if c = '#' then takeFlags { p with alternate := true } rest
    else if c = '0' then takeFlags { p with zeros := true } rest
    else (p, c :: rest)

/-- A number at the start of a text, or, for a star, the next value. -/
def takeCount (values : Values) (t : Text) : Except Failure (Option Int × Values × Text) :=
  match t with
  | ⟨0x2A⟩ :: rest => do
    match ← values.next with
    | (.int n, values) => return (some n, values, rest)
    | (.bool b, values) => return (some (if b then 1 else 0), values, rest)
    | _ => throw (.badType "* wants int")
  | _ =>
    let digits := t.takeWhile fun c => decide (0x30 ≤ c.val ∧ c.val ≤ 0x39)
    let count : Option Int :=
      if digits.isEmpty then none
      else some (digits.foldl (fun n c => 10 * n + (c.val - 0x30)) 0 : Nat)
    .ok (count, values, t.drop digits.length)

/-- A place after its percent sign: how it writes, its letter, and what follows it. -/
def takePlace (values : Values) (t : Text) :
    Except Failure (Place × CodePoint × Values × Text) := do
  let (values, t) ← match t with
    | ⟨0x28⟩ :: inside =>
      match values, untilClosed 0 inside with
      | .inOrder _, _ => throw (.badType "format requires a mapping")
      | _, none => throw (.badValue "incomplete format key")
      | _, some (name, after) => do pure (← values.pick name, after)
    | _ => pure (values, t)
  let (p, t) := takeFlags {} t
  let (width, values, t) ← takeCount values t
  let w := width.getD 0
  let p := { p with width := w.natAbs, left := p.left || decide (w < 0) }
  let (p, values, t) ← match t with
    | ⟨0x2E⟩ :: rest => do
      let (precision, values, t) ← takeCount values rest
      pure ({ p with precision := some (precision.getD 0).toNat }, values, t)
    | _ => pure (p, values, t)
  let t := match t with
    | c :: rest => if c == 'h' || c == 'l' || c == 'L' then rest else t
    | [] => t
  match t with
  | [] => throw (.badValue "incomplete format")
  | letter :: after => return (p, letter, values, after)

/-- Fill the places of what is left of a message. -/
def fillFrom (size : Nat) : (fuel : Nat) → Values → Text → Except Failure Text
  | 0, _, _ => .ok []
  | _ + 1, values, [] =>
    if values.isLeft then .error (.badType "not all arguments converted during string formatting")
    else .ok []
  | fuel + 1, values, ⟨0x25⟩ :: ⟨0x25⟩ :: rest =>
    (fillFrom size fuel values rest).map (⟨0x25⟩ :: ·)
  | fuel + 1, values, c :: rest =>
    if c = '%' then do
      let (p, letter, values, after) ← takePlace values rest
      let (v, values) ← values.next
      match p.write? letter v with
      | some written => return (← written) ++ (← fillFrom size fuel values after)
      | none =>
        throw (.badValue ("unsupported format character '" ++ [letter] ++ "' (0x" ++
          Text.ofNatBase 16 1 letter.val ++ ") at index " ++
          Text.ofNat (size - after.length - 1)))
    else (fillFrom size fuel values rest).map (c :: ·)

/-- A message with its places filled; without values it stays as it is. -/
def fillMessage (message : Text) (values : List Value) : Except Failure Text :=
  if values.isEmpty then .ok message
  else fillFrom message.length (message.length + 1) (.ofList values) message

end LintMend.Log
