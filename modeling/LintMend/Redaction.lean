/-
LintMend.Redaction — keeping secrets out of logs.

A redactor holds rules, each a pattern that secrets of one kind match, and replaces what they
match, one rule after the other. A rule that cannot be read, or a replacement that does not fit
a rule, is an error; text is never let through because a rule failed.

  `SecretRule`, `standardRules` — the kinds of secrets
  `Redactor`                    — rules and what replaces their matches
  `redact`, `hasSecrets`        — the two uses
  `Redactor.standard`, `Text.redacted` — the redactor of the logs
-/
import LintMend.Failure
import LintMend.Pattern.Matching
import LintMend.Pattern.Reader
import LintMend.Pattern.Template

namespace LintMend

/-- A kind of secret: the pattern as written and as read, and the number of its groups. -/
structure SecretRule where
  source : Text
  pattern : Pattern
  groups : Nat := 0
  deriving DecidableEq, Repr

namespace SecretRule

open Pattern

/-- The letters and digits of the basic Latin block. -/
def alphanumeric : List ClassItem :=
  [.range 'a' 'z', .range 'A' 'Z', .range '0' '9']

/-- Everything but whitespace, once or more. -/
def unbroken : Pattern := oneOrMore (one ⟨[.space], true⟩)

/-- A word for a secret, an equals sign or colon, and a long value. -/
def genericSecret : SecretRule where
  source :=
    "(?i)(api[_-]?key|secret|token|password|credential)\\s*[=:]\\s*[\"']?[\\w-]\x7b16,\x7d"
  groups := 1
  pattern := all [
    group 1 (choice [
      all [literalAnyCase "api", optional (anyOf [.range '_' '_', .range '-' '-']),
        literalAnyCase "key"],
      literalAnyCase "secret", literalAnyCase "token", literalAnyCase "password",
      literalAnyCase "credential"]),
    many (anyOf [.space]), anyOf [.range '=' '=', .range ':' ':'], many (anyOf [.space]),
    optional (anyOf [.range '"' '"', .range '\'' '\'']),
    atLeast 16 (anyOf [.word, .range '-' '-'])]

/-- A password of a package repository, as builds take it on the command line. -/
def repositoryPassword : SecretRule where
  source := "(?i)(?:-P|-D)?(?:ossrh|nexus|artifactory|maven|gradle)\\w*password=\\S+"
  pattern := all [
    optional (choice [literalAnyCase "-P", literalAnyCase "-D"]),
    choice (["ossrh", "nexus", "artifactory", "maven", "gradle"].map fun w =>
      literalAnyCase (Text.ofString w)),
    many (anyOf [.word]), literalAnyCase "password=", oneOrMore (anyOf [.notSpace])]

/-- A personal access token. -/
def personalToken : SecretRule where
  source := "ghp_[a-zA-Z0-9]\x7b36\x7d"
  pattern := all [literal "ghp_", times 36 (anyOf alphanumeric)]

/-- A fine-grained personal access token. -/
def fineGrainedToken : SecretRule where
  source := "github_pat_[a-zA-Z0-9_]\x7b22,\x7d"
  pattern := all [literal "github_pat_", atLeast 22 (anyOf (alphanumeric ++ [.range '_' '_']))]

/-- The identifier of a cloud access key. -/
def accessKey : SecretRule where
  source := "AKIA[0-9A-Z]\x7b16\x7d"
  pattern := all [literal "AKIA", times 16 (anyOf [.range '0' '9', .range 'A' 'Z'])]

/-- A connection to a database with name and password. -/
def databaseConnection : SecretRule where
  source :=
    "(?i)(postgres(?:ql)?|mysql|mongodb(?:\\+srv)?|redis|amqp)://[^:]+:[^@]+@[^\\s]+"
  groups := 1
  pattern := all [
    group 1 (choice [
      all [literalAnyCase "postgres", optional (literalAnyCase "ql")],
      literalAnyCase "mysql",
      all [literalAnyCase "mongodb", optional (literalAnyCase "+srv")],
      literalAnyCase "redis", literalAnyCase "amqp"]),
    literal "://", oneOrMore (noneOf [.range ':' ':']), literal ":",
    oneOrMore (noneOf [.range '@' '@']), literal "@", oneOrMore (noneOf [.space])]

/-- An address with name and password. -/
def addressCredentials : SecretRule where
  source := "(?i)https?://[^/\\s:@]+:[^@\\s]+@[^\\s]+"
  pattern := all [
    literalAnyCase "http", optional (literalAnyCase "s"), literal "://",
    oneOrMore (noneOf [.range '/' '/', .space, .range ':' ':', .range '@' '@']), literal ":",
    oneOrMore (noneOf [.range '@' '@', .space]), literal "@", oneOrMore (noneOf [.space])]

/-- The first line of a private key. -/
def privateKey : SecretRule where
  source := "-----BEGIN (?:RSA |EC |DSA |OPENSSH )?PRIVATE KEY-----"
  pattern := all [
    literal "-----BEGIN ",
    optional (choice [literal "RSA ", literal "EC ", literal "DSA ", literal "OPENSSH "]),
    literal "PRIVATE KEY-----"]

/-- A signed token in three parts. -/
def signedToken : SecretRule where
  source := "eyJ[a-zA-Z0-9_-]*\\.eyJ[a-zA-Z0-9_-]*\\.[a-zA-Z0-9_-]*"
  pattern :=
    let part := many (anyOf (alphanumeric ++ [.range '_' '_', .range '-' '-']))
    all [literal "eyJ", part, literal ".eyJ", part, literal ".", part]

end SecretRule

/-- The kinds of secrets that are always looked for, in this order. -/
def standardRules : List SecretRule :=
  [SecretRule.genericSecret, SecretRule.repositoryPassword, SecretRule.personalToken,
    SecretRule.fineGrainedToken, SecretRule.accessKey, SecretRule.databaseConnection,
    SecretRule.addressCredentials, SecretRule.privateKey, SecretRule.signedToken]

/-- Rules, and the text that takes the place of their matches. -/
structure Redactor where
  placeholder : Text
  rules : List SecretRule

namespace Redactor

/-- The placeholder of the logs. -/
def standardPlaceholder : Text := "[REDACTED]"

/-- The redactor of the logs. -/
def standard : Redactor := ⟨standardPlaceholder, standardRules⟩

/-- The failure of a written rule. -/
def ruleFailure (source : Text) (fault : Pattern.Fault) : Failure :=
  match fault.kind with
  | .written =>
    .redaction ("Failed to compile secret pattern '" ++ source ++ "': " ++ fault.message source)
  | .marks => .badValue (fault.message source)
  | .tooLarge => .slip .overflow (fault.message source)

/-- Add a written rule; one that is already there is not added again. -/
def addRule (rules : List SecretRule) (source : Text) : Except Failure (List SecretRule) :=
  match Pattern.read source with
  | .error fault => .error (ruleFailure source fault)
  | .ok (pattern, groups) =>
    if rules.any (·.source == source) then .ok rules
    else .ok (rules ++ [⟨source, pattern, groups⟩])

/-- A redactor with the standard rules and further written ones. -/
def build (placeholder : Text) (sources : List Text) : Except Failure Redactor :=
  (sources.foldlM addRule standardRules).map fun rules => ⟨placeholder, rules⟩

/-- Apply one rule. -/
def applyRule (placeholder : Text) (rule : SecretRule) (t : Text) :
    Except Pattern.Fault Text :=
  (Template.read rule.groups placeholder).map fun template =>
    rule.pattern.replace template.fill t

/-- Apply rules in order. -/
def applyRules (placeholder : Text) :
    List SecretRule → Text → Except Pattern.Fault Text
  | [], t => .ok t
  | rule :: rest, t =>
    match applyRule placeholder rule t with
    | .error fault => .error fault
    | .ok u => applyRules placeholder rest u

/-- The text with every detected secret replaced. -/
def redact (r : Redactor) (t : Text) : Except Failure Text :=
  if t.isEmpty then .ok t
  else
    match applyRules r.placeholder r.rules t with
    | .ok u => .ok u
    | .error fault => .error (.redaction ("Redaction failed: " ++ fault.message r.placeholder))

/-- Whether a text holds a secret. -/
def hasSecrets (r : Redactor) (t : Text) : Bool :=
  !t.isEmpty && r.rules.any (·.pattern.matchesSomewhere t)

end Redactor

/-- The text as logs may show it: matches of the standard rules are replaced, one rule after the
other. -/
def Text.redacted (t : Text) : Text :=
  if t.isEmpty then t
  else
    standardRules.foldl (fun u rule =>
      rule.pattern.replace (fun _ _ => Redactor.standardPlaceholder) u) t

end LintMend
