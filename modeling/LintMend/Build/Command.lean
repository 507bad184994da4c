/-
LintMend.Build.Command — running the command that checks the sources.

The command is a list of words, run in a directory and for a limited time. Its first word is
looked for before it is run: a word with a slash must lead to a file, seen from the directory of
the build, and any other must be the name of a known program. A build that fails is no failure
here, since a build with findings does fail; its output is what matters.

  `BuildCommand`     — words, directory, and limit of time
  `CommandEnding`    — what comes of running a command
  `BuildCommand.run` — the run
-/
import LintMend.FileTree.Lookup
import LintMend.Log.Event

namespace LintMend

/-- A command that builds and checks the sources. -/
structure BuildCommand where
  words : List Text
  directory : FilePath := .current
  /-- The greatest time that it may take, in seconds. -/
  limit : Int := 1800
  deriving DecidableEq, Repr

/-- What comes of running a command. -/
inductive CommandEnding where
  | finished (status : Int) (output : Text)
  | outOfTime
  | refused (errno : Errno)
  deriving DecidableEq, Repr

/-- What can be run: the names of the programs that are found, and what comes of running one. -/
structure Programs where
  known : List Text := []
  ending : CommandEnding := .finished 0 []

/-- The outcome of a build. -/
structure BuildResult where
  output : Text
  status : Int
  words : List Text
  deriving DecidableEq, Repr

namespace BuildResult

/-- A build that found nothing to complain about. -/
def succeeded (r : BuildResult) : Bool :=
  r.status == 0

end BuildResult

namespace BuildCommand

/-- Whether a word is a path and not the name of a program. -/
def isPath (word : Text) : Bool :=
  word.has '/' || word.has '\\'

/-- Whether the program that a word names is there. -/
def isFound (tree : FileTree) (programs : Programs) (directory : FilePath) (word : Text) :
    Except Errno Bool :=
  if isPath word then tree.isFile (directory.join (.ofText word))
  else .ok (!word.isEmpty && programs.known.contains word)

/-- How many seconds longer than the command itself its supervision may take. -/
def grace : Int := 5

/-- The command, its program found, is started. -/
def start (c : BuildCommand) (program : Text) (ending : CommandEnding) :
    List Log.Event × Except Failure BuildResult :=
  let starting := Log.Event.buildStarting c.words c.directory.text c.limit
  match ending with
  | .finished status output =>
    let lines := output.filter (· == ⟨0x0A⟩)
    ([starting, .buildFinished status lines.length], .ok ⟨output, status, c.words⟩)
  | .outOfTime =>
    ([starting, .buildFailed (some c.words) "timeout"],
      .error (.buildTimeout ("Build timed out after " ++ Text.ofInt c.limit ++ "s: " ++
        Text.join " " c.words)))
  | .refused errno =>
    ([starting, .buildFailed (some c.words) errno.message],
      .error (.buildTool
        ("Could not run build command " ++ program ++ ": " ++ errno.message)))

/-- Run the command: what is logged, the commands that were really started, and the result. A
limit that leaves no time at all ends the command before it starts. -/
def run (c : BuildCommand) (tree : FileTree) (programs : Programs) :
    List Log.Event × List BuildCommand × Except Failure BuildResult :=
  match c.words with
  | [] => ([], [], .error (.buildTool "Build command must not be empty"))
  | program :: _ =>
    match isFound tree programs c.directory program with
    | .error errno => ([], [], .error (.system errno))
    | .ok false =>
      ([], [], .error (.buildTool ("Build executable not found: " ++ program ++ " (in " ++
        c.directory.text ++ ")")))
    | .ok true =>
      if c.limit + grace ≤ 0 then
        let (events, result) := c.start program .outOfTime
        (events, [], result)
      else
        let (events, result) := c.start program programs.ending
        (events, [c], result)

end BuildCommand

end LintMend
