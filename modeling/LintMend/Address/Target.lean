/-
LintMend.Address.Target — the addresses that requests go to.

A request goes to a path below the address of a service. The address is put in its usual form:
scheme and host in small letters, no port that the scheme implies, no points on the path, and
percent signs for what an address cannot hold.

  `requestAddress` — the address of a request
-/
import LintMend.Address.Web
import LintMend.Failure
import LintMend.Pattern.Matching

namespace LintMend

/-- The parts of a service's address in their usual form. -/
structure BaseAddress where
  scheme : Text
  user : Text
  host : Text
  port : Option Int
  /-- Path and, after a question mark, query. -/
  path : Text
  fragment : Option Text
  deriving DecidableEq, Repr

namespace BaseAddress

/-- Letters, digits and the marks that are never escaped. -/
def isUnreserved (c : CodePoint) : Bool :=
  (0x41 ≤ c.val && c.val ≤ 0x5A) || (0x61 ≤ c.val && c.val ≤ 0x7A) ||
    (0x30 ≤ c.val && c.val ≤ 0x39) || (Text.ofString "-._~").has c

/-- A visible character of the basic Latin block but for those of a string. -/
def visibleBut (excluded : String) (c : CodePoint) : Bool :=
  0x21 ≤ c.val && c.val ≤ 0x7E && !(Text.ofString excluded).has c

/-- A character that a path may hold. -/
def inPath (c : CodePoint) : Bool := visibleBut "\"#<>?\x60\x7b\x7d" c

/-- A character that a query may hold. -/
def inQuery (c : CodePoint) : Bool := visibleBut "\"#<>" c

/-- A character that a fragment may hold. -/
def inFragment (c : CodePoint) : Bool := visibleBut "\"<>\x60" c

/-- A character that the name of a user may hold. -/
def inUser (c : CodePoint) : Bool := visibleBut "\"#<>?\x60\x7b\x7d/:;=@[\\]^|" c || c == ':'

/-- A character that the name of a host may hold. -/
def inHost (c : CodePoint) : Bool :=
  isUnreserved c || (Text.ofString "!$&'()*+,;=\"\x60\x7b\x7d%|\\").has c

/-- The bytes of a character with percent signs. -/
def percentEncoded (c : CodePoint) : Text :=
  (Utf8.encodeChar c).flatMap fun b => "%" ++ (Text.ofNatBase 16 2 b.toNat).toUpper

/-- A text in which characters that may not stand for themselves are escaped. -/
def escape (allowed : CodePoint → Bool) (t : Text) : Text :=
  t.flatMap fun c => if allowed c then [c] else percentEncoded c

/-- The names of a path without single points, and without those that two points take back. -/
def dropPoints (names : List Text) : List Text :=
  names.foldl (fun (done : List Text) (name : Text) =>
    if name = "." then done
    else if name = ".." then (if done.isEmpty || done = [[]] then done else done.dropLast)
    else done ++ [name]) []

/-- A path without points. -/
def plainPath (t : Text) : Text :=
  let names := Text.splitAt '/' t
  if names.any fun n => n == ("." : Text) || n == (".." : Text) then Text.join "/" (dropPoints names)
  else t

/-- Four runs of digits with one character between each two. -/
def fourNumbers : Pattern :=
  let digits := Pattern.oneOrMore (.anyOf [.range '0' '9'])
  let any := Pattern.one .notLineFeed
  .all [.textStart, digits, any, digits, any, digits, any, digits, .lastLineEnd]

/-- A host in its usual form. -/
def usualHost (host : Text) : Except Failure Text :=
  if fourNumbers.matchesSomewhere host then
    match InternetAddress.number4? host with
    | some _ => .ok host
    | none => .error (.badAddress ("Invalid IPv4 address: " ++ host.quoted))
  else
    match host with
    | ⟨0x5B⟩ :: inside =>
      match InternetAddress.number6? inside.dropLast with
      | some _ => .ok host
      | none => .error (.badAddress ("Invalid IPv6 address: " ++ host.quoted))
    | _ => .ok (escape inHost host.toLower)

/-- The port that a scheme implies. -/
def impliedPort (scheme : Text) : Option Int :=
  if scheme = "http" then some 80 else if scheme = "https" then some 443 else none

/-- A port, unless the scheme implies it. -/
def usualPort (scheme port : Text) : Except Failure (Option Int) :=
  if port.isEmpty then .ok none
  else if port.all Json.isPlainDigit then
    let n : Int := Text.digitsValue port
    .ok (if impliedPort scheme = some n then none else some n)
  else .error (.badAddress ("Invalid port: " ++ port.quoted))

/-- The host of a location as it is written, with brackets, and the port. -/
def splitPort (place : Text) : Text × Text :=
  match Text.cutLast? ']' place with
  | some (host, rest) =>
    if place.head? == some '[' then
      (host ++ "]", if rest.head? == some ':' then rest.drop 1 else rest)
    else (WebAddress.upTo ':' place, ((Text.cut? ':' place).map (·.2)).getD [])
  | none => (WebAddress.upTo ':' place, ((Text.cut? ':' place).map (·.2)).getD [])

/-- A character that no address may hold. -/
def isForbidden (c : CodePoint) : Bool :=
  c.val < 0x20 || c.val == 0x7F

/-- Read the address of a service. -/
def read (t : Text) : Except Failure BaseAddress := do
  match t.findIdx? isForbidden with
  | some i =>
    throw (.badAddress ("Invalid non-printable ASCII character in URL, " ++
      Text.quoted ((t.drop i).take 1) ++ " at position " ++ Text.ofNat i ++ "."))
  | none => pure ()
  let (scheme, rest) := WebAddress.splitScheme t
  let written := t.take scheme.length
  let rest := (Text.dropStart? "//" rest).getD rest
  let authority := rest.takeWhile (!WebAddress.endsAuthority ·)
  let afterAuthority := rest.drop authority.length
  let (beforeFragment, fragment) := match Text.cut? '#' afterAuthority with
    | some (before, after) => (before, some (escape inFragment after))
    | none => (afterAuthority, none)
  let (path, query) := match Text.cut? '?' beforeFragment with
    | some (before, after) => (before, "?" ++ escape inQuery after)
    | none => (beforeFragment, ([] : Text))
  let user := match Text.cutLast? '@' authority with
    | some (before, _) => escape inUser before
    | none => []
  let (host, port) := splitPort (WebAddress.location authority)
  let host ← usualHost host
  let port ← usualPort written port
  let path := escape inPath (plainPath path)
  return { scheme, user, host, port, fragment,
           path := (if path.isEmpty then ("/" : Text) else path) ++ query }

/-- The text of the address of a path below a service's address. -/
def below (b : BaseAddress) (path : Text) : Text :=
  let user : Text := if b.user.isEmpty then [] else b.user ++ "@"
  let port : Text := match b.port with
    | some n => ":" ++ Text.ofInt n
    | none => []
  let start : Text := if Text.endsWith "/" b.path then b.path else b.path ++ "/"
  let fragment : Text := match b.fragment with
    | some f => "#" ++ f
    | none => []
  b.scheme ++ "://" ++ user ++ b.host ++ port ++ start ++ path.dropWhile (·.val == 0x2F) ++ fragment

end BaseAddress

/-- The address of a request to a path below the address of a service. -/
def requestAddress (service path : Text) : Except Failure Text :=
  (BaseAddress.read service).map (·.below path)

end LintMend
