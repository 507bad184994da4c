/-
LintMend.Address.Web — addresses of web services.

An address is a scheme, a colon, and after two slashes the authority, which ends before the
first slash, question mark or number sign. The host is what stands in the authority after its
last at sign and before its port, without the brackets around an address of version 6.

  `WebAddress`          — scheme and authority
  `WebAddress.read`     — reading one, unless brackets or look-alikes of separators are misplaced
  `WebAddress.host`     — the host, in small letters but for a zone
-/
import LintMend.Address.Internet
import LintMend.Text.Case
import LintMend.Text.Quoted

namespace LintMend

/-- What is wrong with the authority of an address. -/
inductive AddressFault where
  /-- Brackets stand where none may. -/
  | brackets
  /-- The host in brackets is of a future version and not well formed. -/
  | futureVersion
  /-- The host in brackets is no numeric address. -/
  | noAddress (host : Text)
  /-- The host in brackets is an address of version 4. -/
  | version4
  /-- A code point is compatible with a separator. -/
  | lookalike (authority : Text)
  deriving DecidableEq, Repr

namespace AddressFault

/-- The fault in words. -/
def message : AddressFault → Text
  | brackets => "Invalid IPv6 URL"
  | futureVersion => "IPvFuture address is invalid"
  | noAddress host => host.quoted ++ " does not appear to be an IPv4 or IPv6 address"
  | version4 => "An IPv4 address cannot be in brackets"
  | lookalike authority =>
    "netloc '" ++ authority ++ "' contains invalid characters under NFKC normalization"

end AddressFault

/-- The address of a web service. -/
structure WebAddress where
  scheme : Text
  authority : Text
  deriving DecidableEq, Repr

namespace WebAddress

/-- Code points whose compatible form holds one of the separators `/ ? # @ :`. -/
def lookalikes : List Nat :=
  [0x2047, 0x2048, 0x2049, 0x2100, 0x2101, 0x2105, 0x2106, 0x2A74, 0xFE13, 0xFE16, 0xFE55, 0xFE56,
   0xFE5F, 0xFE6B, 0xFF03, 0xFF0F, 0xFF1A, 0xFF1F, 0xFF20]

/-- A code point that a scheme may hold. -/
def isSchemeChar (c : CodePoint) : Bool :=
  (0x61 ≤ c.val && c.val ≤ 0x7A) || (0x41 ≤ c.val && c.val ≤ 0x5A) ||
    (0x30 ≤ c.val && c.val ≤ 0x39) || c == '+' || c == '-' || c == '.'

/-- A code point that a scheme may start with. -/
def isSchemeStart (c : CodePoint) : Bool :=
  (0x61 ≤ c.val && c.val ≤ 0x7A) || (0x41 ≤ c.val && c.val ≤ 0x5A)

/-- The scheme in small letters and what follows its colon; without a scheme, the whole text. -/
def splitScheme (t : Text) : Text × Text :=
  match Text.cut? ':' t with
  | some (scheme, rest) =>
    if (scheme.head?.map isSchemeStart).getD false && scheme.all isSchemeChar then
      (scheme.toLowerLatin, rest)
    else ([], t)
  | none => ([], t)

/-- Whether an authority ends before a code point. -/
def endsAuthority (c : CodePoint) : Bool :=
  c == '/' || c == '?' || c == '#'

/-- The text from its first visible code point on, without tabs and line ends. -/
def clean (t : Text) : Text :=
  (t.dropWhile fun c => decide (c.val ≤ 0x20)).filter fun c =>
    !(c == '\t' || c == '\n' || c == '\r')

/-- The part of an authority after its last at sign. -/
def location (authority : Text) : Text :=
  match Text.cutLast? '@' authority with
  | some (_, place) => place
  | none => authority

/-- The text before the first occurrence of a code point, all of it if there is none. -/
def upTo (c : CodePoint) (t : Text) : Text :=
  match Text.cut? c t with
  | some (left, _) => left
  | none => t

/-- The host of an authority as it is written. -/
def writtenHost (authority : Text) : Text :=
  let place := location authority
  match Text.cut? '[' place with
  | some (_, inside) => upTo ']' inside
  | none => upTo ':' place

/-- Whether a host in brackets announces a version to come, and is well formed. -/
def isFutureHost (host : Text) : Bool :=
  match Text.cut? '.' (host.drop 1) with
  | some (version, rest) =>
    !version.isEmpty && version.all (fun c => (Json.hexValue? c).isSome) && !rest.isEmpty
  | none => false

/-- Check a host for which there are brackets in the authority. -/
def checkHost (host : Text) : Except AddressFault Unit :=
  if Text.startsWith "v" host then
    if isFutureHost host then .ok () else .error .futureVersion
  else
    match InternetAddress.ofText? host with
    | none => .error (.noAddress host)
    | some (.v4 _) => .error .version4
    | some (.v6 _) => .ok ()

/-- Check the brackets of an authority: they come in pairs, nothing stands between the at sign
and them, and only a port after them. -/
def checkBrackets (authority : Text) : Except AddressFault Unit :=
  let opening := authority.has '['
  let closing := authority.has ']'
  if opening != closing then .error .brackets
  else if !opening then .ok ()
  else
    match Text.cut? '[' (location authority) with
    | none => checkHost (writtenHost authority)
    | some (before, inside) =>
      if !before.isEmpty then .error .brackets
      else
        match Text.cut? ']' inside with
        | some (_, c :: _) =>
          if c = ':' then checkHost (writtenHost authority) else .error .brackets
        | _ => checkHost (writtenHost authority)

/-- Read an address. -/
def read (t : Text) : Except AddressFault WebAddress :=
  let (scheme, rest) := splitScheme (clean t)
  match Text.dropStart? "//" rest with
  | none => .ok ⟨scheme, []⟩
  | some after =>
    let authority := after.takeWhile (!endsAuthority ·)
    match checkBrackets authority with
    | .error fault => .error fault
    | .ok () =>
      if authority.any fun c => lookalikes.contains c.val then .error (.lookalike authority)
      else .ok ⟨scheme, authority⟩

/-- The host of an address in small letters; a zone after a percent sign stays as it is. -/
def host (a : WebAddress) : Text :=
  let written := writtenHost a.authority
  match Text.cut? '%' written with
  | some (address, zone) => address.toLower ++ "%" ++ zone
  | none => written.toLower

end WebAddress

end LintMend
