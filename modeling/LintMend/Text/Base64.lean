/-
LintMend.Text.Base64 — bytes written with 64 characters.

Four characters write three bytes. What is none of the characters is overlooked, and nothing is
read after the padding that completes the last four.

  `Base64.decode` — the bytes of a text, or why it writes none
-/
import LintMend.Utf8

namespace LintMend.Base64

/-- The six bits that a character writes. -/
def bits? (c : CodePoint) : Option Nat :=
  if 0x41 ≤ c.val ∧ c.val ≤ 0x5A then some (c.val - 0x41)
  else if 0x61 ≤ c.val ∧ c.val ≤ 0x7A then some (c.val - 0x61 + 26)
  else if 0x30 ≤ c.val ∧ c.val ≤ 0x39 then some (c.val - 0x30 + 52)
  else if c = '+' then some 62
  else if c = '/' then some 63
  else none

/-- The bytes that two, three or four groups of six bits complete. -/
def bytes (group : List Nat) : Bytes :=
  match group with
  | [a, b] => [UInt8.ofNat (4 * a + b / 16)]
  | [a, b, c] => [UInt8.ofNat (4 * a + b / 16), UInt8.ofNat (b % 16 * 16 + c / 4)]
  | [a, b, c, d] =>
    [UInt8.ofNat (4 * a + b / 16), UInt8.ofNat (b % 16 * 16 + c / 4), UInt8.ofNat (c % 4 * 64 + d)]
  | _ => []

/-- Why a text writes no bytes. -/
inductive Fault where
  /-- One character is left over; so many characters were read. -/
  | lone (count : Nat)
  | unpadded
  deriving DecidableEq, Repr

/-- A fault in words. -/
def Fault.message : Fault → Text
  | lone count =>
    "Invalid base64-encoded string: number of data characters (" ++ Text.ofNat count ++
      ") cannot be 1 more than a multiple of 4"
  | unpadded => "Incorrect padding"

/-- Decode what follows some full groups of four characters, an incomplete one and some
padding. -/
def decodeFrom (full : Nat) (group : List Nat) (pads : Nat) : Text → Except Fault Bytes
  | [] =>
    match group with
    | [] => .ok []
    | [_] => .error (.lone (4 * full + 1))
    | _ => .error .unpadded
  | c :: rest =>
    if c = '=' then
      if 2 ≤ group.length then
        if 4 ≤ group.length + (pads + 1) then .ok (bytes group)
        else decodeFrom full group (pads + 1) rest
      else decodeFrom full group pads rest
    else
      match bits? c with
      | none => decodeFrom full group pads rest
      | some n =>
        if group.length = 3 then
          (decodeFrom (full + 1) [] 0 rest).map (bytes (group ++ [n]) ++ ·)
        else decodeFrom full (group ++ [n]) 0 rest

/-- The bytes that a text writes. -/
def decode (t : Text) : Except Fault Bytes :=
  decodeFrom 0 [] 0 t

end LintMend.Base64
