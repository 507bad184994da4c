/-
LintMend.Json.Encoded — JSON in bytes.

The encoding of the text is told from its first bytes, since JSON starts with two characters of
the basic Latin block unless a mark of byte order comes first. Surrogates that are encoded alone
are kept.

  `Json.Encoding.ofBytes` — the encoding that bytes are in
  `Json.readBytes`        — the value that bytes hold, or why there is none
-/
import LintMend.Json.Reader
import LintMend.Utf8

namespace LintMend.Json

/-- An encoding of JSON text. -/
inductive Encoding where
  | utf8
  | utf8Marked
  /-- Units of two bytes, after a number of bytes that mark the order. -/
  | utf16 (bigEndian : Bool) (mark : Nat)
  /-- Units of four bytes, after a number of bytes that mark the order. -/
  | utf32 (bigEndian : Bool) (mark : Nat)
  deriving DecidableEq, Repr

/-- The encoding of bytes without a mark, by the zeros among the first of them. -/
def Encoding.ofZeros (bytes : Bytes) : Encoding :=
  match bytes with
  | a :: b :: c :: d :: _ =>
    if a = 0 then (if b = 0 then .utf32 true 0 else .utf16 true 0)
    else if b = 0 then (if c = 0 ∧ d = 0 then .utf32 false 0 else .utf16 false 0)
    else .utf8
  | [a, b] => if a = 0 then .utf16 true 0 else if b = 0 then .utf16 false 0 else .utf8
  | _ => .utf8

/-- The encoding of bytes. -/
def Encoding.ofBytes (bytes : Bytes) : Encoding :=
  match bytes with
  | 0x00 :: 0x00 :: 0xFE :: 0xFF :: _ => .utf32 true 4
  | 0xFF :: 0xFE :: 0x00 :: 0x00 :: _ => .utf32 false 4
  | 0xFE :: 0xFF :: _ => .utf16 true 2
  | 0xFF :: 0xFE :: _ => .utf16 false 2
  | 0xEF :: 0xBB :: 0xBF :: _ => .utf8Marked
  | _ => .ofZeros bytes

/-- The text of pieces of UTF-8, surrogates that are encoded as three bytes included. -/
def joinSurrogates (position : Nat) : List Utf8.Piece → Except Utf8.DecodeError Text
  | [] => .ok []
  | .char c width :: rest =>
    match joinSurrogates (position + width) rest with
    | .ok t => .ok (c :: t)
    | .error e => .error e
  | .flaw _ [0xED] :: .flaw _ [b] :: .flaw _ [c] :: rest =>
    if 0xA0 ≤ b ∧ b ≤ 0xBF ∧ Utf8.isContinuation c then
      match joinSurrogates (position + 3) rest with
      | .ok t => .ok (⟨0xD000 + Utf8.payload b * 64 + Utf8.payload c⟩ :: t)
      | .error e => .error e
    else .error ⟨.invalidContinuation, [0xED], position⟩
  | .flaw kind bytes :: _ => .error ⟨kind, bytes, position⟩

/-- The number that two bytes make. -/
def unit16 (bigEndian : Bool) (a b : UInt8) : Nat :=
  if bigEndian then a.toNat * 256 + b.toNat else b.toNat * 256 + a.toNat

/-- The numbers that pairs of bytes make, and the byte that is left over. -/
def units16 (bigEndian : Bool) : Bytes → List Nat × Option UInt8
  | [] => ([], none)
  | [a] => ([], some a)
  | a :: b :: rest =>
    let (units, left) := units16 bigEndian rest
    (unit16 bigEndian a b :: units, left)

/-- Join pairs of surrogates; those that stand alone stay. -/
def joinUnits16 : List Nat → Text
  | [] => []
  | [n] => [⟨n⟩]
  | high :: low :: rest =>
    if 0xD800 ≤ high ∧ high ≤ 0xDBFF ∧ 0xDC00 ≤ low ∧ low ≤ 0xDFFF then
      ⟨0x10000 + (high - 0xD800) * 0x400 + (low - 0xDC00)⟩ :: joinUnits16 rest
    else ⟨high⟩ :: joinUnits16 (low :: rest)

/-- The name of an encoding with units of several bytes. -/
def unitsName (width : Nat) (bigEndian : Bool) : Text :=
  "utf-" ++ Text.ofNat width ++ (if bigEndian then ("-be" : Text) else "-le")

/-- The refusal of bytes at a position. -/
def refusal (name : Text) (position : Nat) (bytes : Bytes) (reason : Text) : Text :=
  "'" ++ name ++ "' codec can't decode " ++
    (match bytes with
      | [b] => "byte 0x" ++ Text.ofNatBase 16 2 b.toNat ++ " in position " ++ Text.ofNat position
      | _ =>
        "bytes in position " ++ Text.ofNat position ++ "-" ++
          Text.ofNat (position + bytes.length - 1)) ++
    ": " ++ reason

/-- The text of units of two bytes. -/
def decode16 (bigEndian : Bool) (mark : Nat) (bytes : Bytes) : Except Text Text :=
  let (units, left) := units16 bigEndian (bytes.drop mark)
  match left with
  | some b =>
    .error (refusal (unitsName 16 bigEndian) (bytes.length - 1) [b] "truncated data")
  | none => .ok (joinUnits16 units)

/-- The text of units of four bytes, from a position on. -/
def decode32 (bigEndian : Bool) (position : Nat) : Bytes → Except Text Text
  | [] => .ok []
  | a :: b :: c :: d :: rest =>
    let n :=
      if bigEndian then unit16 true a b * 65536 + unit16 true c d
      else unit16 false c d * 65536 + unit16 false a b
    if 0x110000 ≤ n then
      .error (refusal (unitsName 32 bigEndian) position [a, b, c, d]
        "code point not in range(0x110000)")
    else (decode32 bigEndian (position + 4) rest).map (⟨n⟩ :: ·)
  | bytes => .error (refusal (unitsName 32 bigEndian) position bytes "truncated data")

/-- The text that bytes encode. -/
def decodeBytes (bytes : Bytes) : Except Text Text :=
  match Encoding.ofBytes bytes with
  | .utf8 => (joinSurrogates 0 (Utf8.pieces bytes)).mapError (·.message)
  | .utf8Marked => (joinSurrogates 0 (Utf8.pieces (bytes.drop 3))).mapError (·.message)
  | .utf16 bigEndian mark => decode16 bigEndian mark bytes
  | .utf32 bigEndian mark => decode32 bigEndian mark (bytes.drop mark)

/-- The value that bytes hold, or the reason why they hold none. -/
def readBytes (bytes : Bytes) : Except Text Json :=
  match decodeBytes bytes with
  | .error reason => .error reason
  | .ok t => (readWhole t).mapError (·.message t)

end LintMend.Json
