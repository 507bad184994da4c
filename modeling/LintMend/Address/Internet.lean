/-
LintMend.Address.Internet — numeric addresses of hosts.

An address of version 4 is four decimal numbers up to 255, without leading zeros. One of version
6 is eight groups of up to four hexadecimal digits; one run of zero groups may be left out, and
the last two groups may be written as an address of version 4. A zone may follow a percent sign.

  `InternetAddress`            — an address as a number
  `InternetAddress.ofText?`    — reading one
  `InternetAddress.isLoopback` — whether it leads back to the own machine
-/
import LintMend.Json.Reader
import LintMend.Text.Digit

namespace LintMend

/-- A numeric address of a host. -/
inductive InternetAddress where
  | v4 (n : Nat)
  | v6 (n : Nat)
  deriving DecidableEq, Repr

namespace InternetAddress

/-- The most significant part first. -/
def number (base : Nat) (parts : List Nat) : Nat :=
  parts.foldl (fun n part => base * n + part) 0

/-- One of the four numbers of an address of version 4. -/
def octet? (t : Text) : Option Nat :=
  if t.isEmpty || 3 < t.length || !t.all Json.isPlainDigit then none
  else if t.head? == some '0' && t != "0" then none
  else if 255 < Text.digitsValue t then none
  else some (Text.digitsValue t)

/-- The number of an address of version 4. -/
def number4? (t : Text) : Option Nat :=
  let parts := Text.splitAt '.' t
  if parts.length = 4 then (parts.mapM octet?).map (number 256) else none

/-- One of the groups of an address of version 6. -/
def group? (t : Text) : Option Nat :=
  if t.isEmpty || 4 < t.length then none
  else (t.mapM Json.hexValue?).map (number 16)

/-- The parts between the colons, an address of version 4 at the end counting as two groups of
which the numbers are known. -/
def splitGroups (t : Text) : Option (List Text × List Nat) :=
  let parts := Text.splitAt ':' t
  let last := parts.getLastD []
  if parts.length < 3 then none
  else if last.has '.' then
    (number4? last).map fun n => (parts.dropLast, [n / 65536, n % 65536])
  else some (parts, [])

/-- The groups from both sides of the place where zero groups are left out. -/
def fill? (high low : List Nat) : Option (List Nat) :=
  if high.length + low.length < 8 then
    some (high ++ List.replicate (8 - (high.length + low.length)) 0 ++ low)
  else none

/-- The eight groups of an address of version 6, from the parts between the colons and the
groups known already. An empty part between two others stands for the zero groups left out; at
an end, a part may only be empty beside that one. -/
def groups? (parts : List Text) (known : List Nat) : Option (List Nat) :=
  let size := parts.length + known.length
  let atEnd := known.isEmpty
  let inner := (parts.drop 1).take (size - 2)
  match inner.findIdx? (·.isEmpty) with
  | none =>
    if size = 8 then (parts.mapM group?).map (· ++ known) else none
  | some i =>
    let high := parts.take (i + 1)
    let low := parts.drop (i + 2)
    if 9 < size || (inner.drop (i + 1)).any (·.isEmpty) then none
    else
      let high? := if high = [[]] then some [] else high.mapM group?
      let low? := if atEnd && low = [[]] then some [] else low.mapM group?
      match high?, low? with
      | some high, some low => fill? high (low ++ known)
      | _, _ => none

/-- The number of an address of version 6, without zone. -/
def plainNumber6? (t : Text) : Option Nat :=
  match splitGroups t with
  | some (parts, known) => (groups? parts known).map (number 65536)
  | none => none

/-- The number of an address of version 6, perhaps with a zone. -/
def number6? (t : Text) : Option Nat :=
  if t.has '/' then none
  else
    match Text.cut? '%' t with
    | none => plainNumber6? t
    | some (address, zone) =>
      if zone.isEmpty || zone.has '%' then none else plainNumber6? address

/-- Read an address. -/
def ofText? (t : Text) : Option InternetAddress :=
  match number4? t with
  | some n => some (v4 n)
  | none => (number6? t).map v6

/-- The addresses of the own machine: those of version 4 that start with 127, and the first one
of version 6. -/
def isLoopback : InternetAddress → Bool
  | v4 n => n / 16777216 == 127
  | v6 n => n == 1

end InternetAddress

end LintMend
