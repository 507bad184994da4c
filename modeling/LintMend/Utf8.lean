/-
LintMend.Utf8 — text as bytes, in the encoding UTF-8.

`encode` writes every code point that is a character and refuses the others; `decode` reads
well-formed bytes and says where and why it stops at others; `decodeLossy` puts one replacement
character for each flaw. All three rest on two functions: `encodeChar`, the one to four bytes of
a character, and `pieces`, which cuts bytes into characters and flaws, a flaw being the longest
start of a character that the next byte breaks off.

  `decode`, `decodeLossy` — from bytes
  `encode`                — to bytes
  `nameFault?`, `nameBytes` — which text can be a name of the system's, and the bytes of one
  `DecodeError.message`, `EncodeError.message` — the texts of the two refusals
-/
import LintMend.Text.Basic

namespace LintMend

/-- The bytes of a file or a message. -/
abbrev Bytes := List UInt8

namespace Utf8

/-- Why bytes are no character. -/
inductive Flaw where
  /-- No character starts with this byte. -/
  | invalidStart
  /-- A byte that has to continue a character does not. -/
  | invalidContinuation
  /-- The bytes end within a character. -/
  | unexpectedEnd
  deriving DecidableEq, Repr

/-- Bytes that cannot be read as text: the flaw, its bytes, and how many bytes precede it. -/
structure DecodeError where
  flaw : Flaw
  bytes : Bytes
  position : Nat
  deriving DecidableEq, Repr

/-- Text that cannot be written as bytes: the run of code points that are no characters, and
how many code points precede it. -/
structure EncodeError where
  run : Text
  position : Nat
  deriving DecidableEq, Repr

/-- A part of a byte sequence: a character, or a flaw with the bytes that it spoils. -/
inductive Piece where
  | char (c : CodePoint) (width : Nat)
  | flaw (kind : Flaw) (bytes : Bytes)
  deriving DecidableEq, Repr

/-- A byte that continues a character. -/
def isContinuation (b : UInt8) : Bool :=
  0x80 ≤ b && b ≤ 0xBF

/-- Whether a second byte is allowed after a first byte of a character of three or four bytes:
overlong forms, surrogates and numbers beyond the last code point are not. -/
def isSecond (first second : UInt8) : Bool :=
  if first = 0xE0 then 0xA0 ≤ second && second ≤ 0xBF
  else if first = 0xED then 0x80 ≤ second && second ≤ 0x9F
  else if first = 0xF0 then 0x90 ≤ second && second ≤ 0xBF
  else if first = 0xF4 then 0x80 ≤ second && second ≤ 0x8F
  else isContinuation second

/-- The six bits that a continuation byte carries. -/
def payload (b : UInt8) : Nat :=
  b.toNat % 64

/-- Cut bytes into characters and flaws. -/
def pieces : Bytes → List Piece
  | [] => []
  | a :: rest =>
    if a < 0x80 then .char ⟨a.toNat⟩ 1 :: pieces rest
    else if 0xC2 ≤ a && a ≤ 0xDF then
      match rest with
      | [] => [.flaw .unexpectedEnd [a]]
      | b :: rest₁ =>
        if isContinuation b then
          .char ⟨(a.toNat - 0xC0) * 64 + payload b⟩ 2 :: pieces rest₁
        else .flaw .invalidContinuation [a] :: pieces (b :: rest₁)
    else if 0xE0 ≤ a && a ≤ 0xEF then
      match rest with
      | [] => [.flaw .unexpectedEnd [a]]
      | b :: rest₁ =>
        if isSecond a b then
          match rest₁ with
          | [] => [.flaw .unexpectedEnd [a, b]]
          | c :: rest₂ =>
            if isContinuation c then
              .char ⟨(a.toNat - 0xE0) * 4096 + payload b * 64 + payload c⟩ 3 :: pieces rest₂
            else .flaw .invalidContinuation [a, b] :: pieces (c :: rest₂)
        else .flaw .invalidContinuation [a] :: pieces (b :: rest₁)
    else if 0xF0 ≤ a && a ≤ 0xF4 then
      match rest with
      | [] => [.flaw .unexpectedEnd [a]]
      | b :: rest₁ =>
        if isSecond a b then
          match rest₁ with
          | [] => [.flaw .unexpectedEnd [a, b]]
          | c :: rest₂ =>
            if isContinuation c then
              match rest₂ with
              | [] => [.flaw .unexpectedEnd [a, b, c]]
              | d :: rest₃ =>
                if isContinuation d then
                  .char ⟨(a.toNat - 0xF0) * 262144 + payload b * 4096 + payload c * 64 +
                    payload d⟩ 4 :: pieces rest₃
                else .flaw .invalidContinuation [a, b, c] :: pieces (d :: rest₃)
            else .flaw .invalidContinuation [a, b] :: pieces (c :: rest₂)
        else .flaw .invalidContinuation [a] :: pieces (b :: rest₁)
    else .flaw .invalidStart [a] :: pieces rest
  termination_by bytes => bytes.length

/-- The text of the pieces, up to the first flaw. -/
def join (position : Nat) : List Piece → Except DecodeError Text
  | [] => .ok []
  | .char c width :: rest =>
    match join (position + width) rest with
    | .ok t => .ok (c :: t)
    | .error e => .error e
  | .flaw kind bytes :: _ => .error ⟨kind, bytes, position⟩

/-- Read bytes as text. -/
def decode (bytes : Bytes) : Except DecodeError Text :=
  join 0 (pieces bytes)

/-- The character of a piece, the replacement character for a flaw. -/
def Piece.lossy : Piece → CodePoint
  | .char c _ => c
  | .flaw .. => ⟨0xFFFD⟩

/-- Read bytes as text, with a replacement character for every flaw. -/
def decodeLossy (bytes : Bytes) : Text :=
  (pieces bytes).map Piece.lossy

/-- The bytes of a character. -/
def encodeChar (c : CodePoint) : Bytes :=
  let n := c.val
  if n < 0x80 then [UInt8.ofNat n]
  else if n < 0x800 then [UInt8.ofNat (0xC0 + n / 64), UInt8.ofNat (0x80 + n % 64)]
  else if n < 0x10000 then
    [UInt8.ofNat (0xE0 + n / 4096), UInt8.ofNat (0x80 + n / 64 % 64), UInt8.ofNat (0x80 + n % 64)]
  else
    [UInt8.ofNat (0xF0 + n / 262144), UInt8.ofNat (0x80 + n / 4096 % 64),
      UInt8.ofNat (0x80 + n / 64 % 64), UInt8.ofNat (0x80 + n % 64)]

/-- Write the rest of a text as bytes, given how many code points precede it. -/
def encodeFrom (position : Nat) : Text → Except EncodeError Bytes
  | [] => .ok []
  | c :: rest =>
    if c.isScalar then
      match encodeFrom (position + 1) rest with
      | .ok bytes => .ok (encodeChar c ++ bytes)
      | .error e => .error e
    else .error ⟨c :: rest.takeWhile (!·.isScalar), position⟩

/-- Write text as bytes. -/
def encode (t : Text) : Except EncodeError Bytes :=
  encodeFrom 0 t

/-- Whether every code point of a text is a character, so that it can be written. -/
def isEncodable (t : Text) : Bool :=
  t.all CodePoint.isScalar

/-- A surrogate that stands for one byte that is no text. -/
def isByteSurrogate (c : CodePoint) : Bool :=
  0xDC80 ≤ c.val && c.val ≤ 0xDCFF

/-- The fault of the rest of a name, given how many code points precede it. -/
def nameFaultFrom? (position : Nat) : Text → Option EncodeError
  | [] => none
  | c :: rest =>
    if c.isScalar || isByteSurrogate c then nameFaultFrom? (position + 1) rest
    else some ⟨c :: rest.takeWhile (!·.isScalar), position⟩

/-- Why a text cannot be a name of the system's, of a file or of a variable. The bytes of such names
need not be text, and those that are none stand in it as surrogates; other surrogates are refused. -/
def nameFault? (t : Text) : Option EncodeError :=
  nameFaultFrom? 0 t

/-- The bytes of a name of the system's. -/
def nameBytes (t : Text) : Bytes :=
  t.flatMap fun c => if isByteSurrogate c then [UInt8.ofNat c.val] else encodeChar c

namespace Flaw

/-- The reason in words. -/
def message : Flaw → Text
  | invalidStart => "invalid start byte"
  | invalidContinuation => "invalid continuation byte"
  | unexpectedEnd => "unexpected end of data"

end Flaw

namespace DecodeError

/-- Where and why bytes could not be read: the byte, or the range of several. -/
def message (e : DecodeError) : Text :=
  match e.bytes with
  | [b] =>
    "'utf-8' codec can't decode byte 0x" ++ Text.ofNatBase 16 2 b.toNat ++ " in position " ++
      Text.ofNat e.position ++ ": " ++ e.flaw.message
  | bytes =>
    "'utf-8' codec can't decode bytes in position " ++ Text.ofNat e.position ++ "-" ++
      Text.ofNat (e.position + bytes.length - 1) ++ ": " ++ e.flaw.message

end DecodeError

namespace EncodeError

/-- The escape of a code point that is no character. -/
def escape (c : CodePoint) : Text :=
  if c.val < 0x10000 then "\\u" ++ Text.ofNatBase 16 4 c.val
  else "\\U" ++ Text.ofNatBase 16 8 c.val

/-- Where and why text could not be written: the code point, or the range of several. -/
def message (e : EncodeError) : Text :=
  match e.run with
  | [c] =>
    "'utf-8' codec can't encode character '" ++ escape c ++ "' in position " ++
      Text.ofNat e.position ++ ": surrogates not allowed"
  | run =>
    "'utf-8' codec can't encode characters in position " ++ Text.ofNat e.position ++ "-" ++
      Text.ofNat (e.position + run.length - 1) ++ ": surrogates not allowed"

end EncodeError

end Utf8

end LintMend
