/-
LintMend.CommandLine.Arguments — reading the arguments of the command line.

A value follows its option as the next argument, or in the same one after an equals sign, or,
for a short option, right after it. Short switches may share a hyphen. A long name may be cut
short as long as it stands for one option only. After two hyphens alone nothing is an option,
and what is no option and no value is not understood.

  `Arguments`      — what is asked for
  `Arguments.read` — from the words of the command line
  `Stop`           — why there is nothing to do
-/
import LintMend.CommandLine.Option
import LintMend.FilePath
import LintMend.Log.Format
import LintMend.Text.Integer
import LintMend.Text.Quoted

namespace LintMend

/-- What is asked for on the command line. -/
structure Arguments where
  configuration : Option FilePath := none
  input : Option Text := none
  directory : Option FilePath := none
  check : Bool := false
  showContext : Bool := false
  dryRun : Bool := false
  healthCheck : Bool := false
  /-- How often to ask whether the service is ready. -/
  attempts : Int := 0
  debug : Bool := false
  format : Option Log.Format := none
  deriving DecidableEq, Repr

/-- Why the program stops before it does anything. -/
inductive Stop where
  | helpWanted
  | versionWanted
  /-- The command line is not understood. -/
  | misused (message : Text)
  deriving DecidableEq, Repr

namespace Stop

/-- The exit code. -/
def code : Stop → Nat
  | misused _ => 2
  | _ => 0

/-- What is written to standard output. -/
def output : Stop → Text
  | helpWanted => helpText
  | versionWanted => versionText
  | misused _ => []

/-- What is written to standard error. -/
def complaint : Stop → Text
  | misused message => usageText ++ programName ++ ": error: " ++ message ++ "\n"
  | _ => []

end Stop

/-- An argument, looked at by itself. -/
inductive ArgumentWord where
  | plain
  /-- A known option, with the value that is written in the same argument. -/
  | option (o : CommandOption) (short : Bool) (value : Option Text)
  /-- What looks like an option. -/
  | unknown
  deriving DecidableEq, Repr

/-- Why an option cannot be used as it is. -/
def optionFault (o : CommandOption) (message : Text) : Stop :=
  .misused ("argument " ++ Text.join "/" o.names ++ ": " ++ message)

/-- A part of a text that only digits make up, perhaps with a line feed at the end. -/
def isDigits (t : Text) : Bool :=
  !t.isEmpty && t.all CodePoint.isDigit

/-- Whether a text is a negative number. -/
def isNegativeNumber (t : Text) : Bool :=
  match t with
  | [] => false
  | sign :: body =>
    let body := if body.getLast? == some ⟨0x0A⟩ then body.dropLast else body
    sign == '-' && (isDigits body ||
      match Text.cut? '.' body with
      | some (whole, fraction) => whole.all CodePoint.isDigit && isDigits fraction
      | none => false)

/-- What starts with a hyphen but is no name of an option and no beginning of one. -/
def lookAtStranger (t : Text) : ArgumentWord :=
  if isNegativeNumber t || t.has ' ' then .plain else .unknown

/-- What starts with one hyphen and is no name of an option: perhaps a short option with more
after it. -/
def lookAtShort (t : Text) : ArgumentWord :=
  match CommandOption.ofName? (t.take 2) with
  | some o => .option o true (some (t.drop 2))
  | none => lookAtStranger t

/-- A long name, perhaps cut short, and the value after its equals sign. -/
def lookAtLong (t start : Text) (value : Option Text) : Except Stop ArgumentWord :=
  match CommandOption.withStart start with
  | [] => .ok (lookAtStranger t)
  | [(_, o)] => .ok (.option o false value)
  | several =>
    .error (.misused ("ambiguous option: " ++ t ++ " could match " ++
      Text.join ", " (several.map (·.1))))

/-- Whether a name is a short one. -/
def isShortName (name : Text) : Bool :=
  !Text.startsWith "--" name

/-- What an argument is, seen by itself. -/
def lookAt (t : Text) : Except Stop ArgumentWord :=
  if !Text.startsWith "-" t then .ok .plain
  else
    match CommandOption.ofName? t with
    | some o => .ok (.option o (isShortName t) none)
    | none =>
      if t.length = 1 then .ok .plain
      else
        let (name, value) : Text × Option Text := match Text.cut? '=' t with
          | some (name, value) => (name, some value)
          | none => (t, none)
        match CommandOption.ofName? name with
        | some o => .ok (.option o (isShortName name) value)
        | none => if isShortName t then .ok (lookAtShort t) else lookAtLong t name value

/-- The two hyphens after which nothing is an option. -/
def endOfOptions : Text := "--"

/-- All arguments, looked at. -/
def lookAtAll : List Text → Except Stop (List (Text × ArgumentWord))
  | [] => .ok []
  | t :: rest =>
    if t = endOfOptions then .ok ((t, .unknown) :: rest.map (·, .plain))
    else do
      let word ← lookAt t
      return (t, word) :: (← lookAtAll rest)

/-- An option that is used, and its value. -/
abbrev OptionUse := CommandOption × Option Text

/-- The options that one argument uses: a switch, a value in the same argument, or several short
ones. -/
def usesOf (o : CommandOption) (short : Bool) (value : Text) : Except Stop (List OptionUse) :=
  if o.takesValue then .ok [(o, some value)]
  else
    let ignored := optionFault o ("ignored explicit argument " ++ value.quoted)
    match short, value with
    | true, letter :: rest =>
      match CommandOption.ofName? ['-', letter] with
      | none => .error ignored
      | some next =>
        if rest.isEmpty then .ok [(o, none), (next, none)]
        else (usesOf next true rest).map ((o, none) :: ·)
    | _, _ => .error ignored
  termination_by value.length

/-- Whether a value is still to come for the last of some uses. -/
def awaitsValue : List OptionUse → Option CommandOption
  | [] => none
  | [(o, value)] => if o.takesValue && value.isNone then some o else none
  | _ :: rest => awaitsValue rest

/-- Uses with the value that the last one waits for. -/
def giveValue (value : Text) : List OptionUse → List OptionUse
  | [] => []
  | [(o, _)] => [(o, some value)]
  | u :: rest => u :: giveValue value rest

namespace Arguments

/-- Do what one option asks for. -/
def use (a : Arguments) : OptionUse → Except Stop Arguments
  | (.help, _) => .error .helpWanted
  | (.version, _) => .error .versionWanted
  | (.check, _) => .ok { a with check := true }
  | (.showContext, _) => .ok { a with showContext := true }
  | (.dryRun, _) => .ok { a with dryRun := true }
  | (.healthCheck, _) => .ok { a with healthCheck := true }
  | (.debug, _) => .ok { a with debug := true }
  | (.configuration, value) => .ok { a with configuration := value.map FilePath.ofText }
  | (.input, value) => .ok { a with input := value }
  | (.directory, value) => .ok { a with directory := value.map FilePath.ofText }
  | (.awaitService, value) =>
    let text := value.getD []
    match text.int? with
    | some n => .ok { a with attempts := n }
    | none => .error (optionFault .awaitService ("invalid int value: " ++ text.quoted))
  | (.format, value) =>
    let text := value.getD []
    match Log.Format.ofName? text with
    | some f => .ok { a with format := some f }
    | none =>
      .error (optionFault .format ("invalid choice: " ++ text.quoted ++ " (choose from " ++
        Text.join ", " (Log.Format.all.map (·.name.quoted)) ++ ")"))

/-- Do what options ask for, in order. -/
def useAll (a : Arguments) (uses : List OptionUse) : Except Stop Arguments :=
  uses.foldlM use a

/-- Go through arguments that were looked at; what is not understood is collected. -/
def readWords (a : Arguments) (strange : List Text) :
    List (Text × ArgumentWord) → Except Stop (Arguments × List Text)
  | [] => .ok (a, strange)
  | (t, .plain) :: rest => readWords a (strange ++ [t]) rest
  | (t, .unknown) :: rest => readWords a (strange ++ [t]) rest
  | (_, .option o short value) :: rest => do
    let uses ← match value with
      | none => pure [(o, none)]
      | some v => usesOf o short v
    match awaitsValue uses with
    | none => readWords (← a.useAll uses) strange rest
    | some o =>
      match rest with
      | (next, .plain) :: rest => readWords (← a.useAll (giveValue next uses)) strange rest
      | _ => .error (optionFault o "expected one argument")

/-- What the words of the command line ask for. -/
def read (words : List Text) : Except Stop Arguments := do
  let (a, strange) ← readWords {} [] (← lookAtAll words)
  if strange.isEmpty then return a
  else throw (.misused ("unrecognized arguments: " ++ Text.join " " strange))

end Arguments

end LintMend
