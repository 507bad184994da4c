/-
LintMend.FileTree.Lookup — from a path to the entry that it names.

A path is followed name by name from the root or the current directory. Two points lead up, a
link is followed where it stands, and at most forty links are followed on one way. The last name
may be missing, so that a file can be made there.

  `FileTree.walk`    — follow names
  `FileTree.lookup`  — follow a path
  `stat`, `isFile`, `isPresent`, `readBytes` — questions about the entry found
-/
import LintMend.Failure
import LintMend.FilePath
import LintMend.FileTree.Basic

namespace LintMend

/-- Why a path cannot be used. -/
inductive PathFault where
  /-- A path holds the code point zero. -/
  | zero
  /-- A path holds a surrogate that stands for no byte. -/
  | unencodable (error : Utf8.EncodeError)
  | system (errno : Errno)
  deriving DecidableEq, Repr

/-- The failure that a fault of a path is, and the files that a refusal names. -/
def PathFault.failure (fault : PathFault) (files : List FileName := []) : Failure :=
  match fault with
  | zero => .badValue "embedded null byte"
  | unencodable error => .unencodable error
  | system errno => .refused errno files

/-- Where a path leads. -/
inductive Place where
  /-- To an entry. -/
  | found (here : Location) (entry : Entry)
  /-- To a name that is missing in a directory. -/
  | absent (directory : Location) (name : Text)
  deriving DecidableEq, Repr

namespace FileTree

/-- The number of bytes of a name. -/
def nameSize (t : Text) : Nat :=
  (t.map fun c => if Utf8.isByteSurrogate c then 1 else (Utf8.encodeChar c).length).foldr (· + ·) 0

/-- The most bytes that a name may have. -/
def maxNameSize : Nat := 255

/-- The most bytes that a whole path may have. -/
def maxPathSize : Nat := 4095

/-- The most links that are followed on one way. -/
def maxLinks : Nat := 40

/-- The names in the target of a link; a slash at the end asks for a directory. -/
def targetNames (target : Text) : List Text :=
  (Text.splitAt '/' target).filter (· != []) ++ (if Text.endsWith "/" target then [("." : Text)] else [])

/-- Follow names from a location. The link at the end is followed only if asked for. -/
def walk (t : FileTree) (followLast : Bool) (links : Nat) (here : Location) (names : List Text) :
    Except Errno Place :=
  match names with
  | [] =>
    match t.at? here with
    | some e => .ok (.found here e)
    | none => .error .noEntry
  | name :: rest =>
    match t.at? here with
    | some (.directory _) =>
      if name = ".." then t.walk followLast links here.dropLast rest
      else if name = "." then t.walk followLast links here rest
      else if maxNameSize < nameSize name then .error .nameTooLong
      else
        match t.at? (here ++ [name]) with
        | none => if rest = [] then .ok (.absent here name) else .error .noEntry
        | some (.link target) =>
          if rest = [] ∧ followLast = false then .ok (.found (here ++ [name]) (.link target))
          else
            match links with
            | 0 => .error .tooManyLinks
            | left + 1 =>
              let start := if Text.startsWith "/" target then [] else here
              t.walk followLast left start (targetNames target ++ rest)
        | some _ => t.walk followLast links (here ++ [name]) rest
    | some _ => .error .notDirectory
    | none => .error .noEntry
  termination_by (links, names.length)

/-- The first fault of a text as a path. -/
def pathFault? (t : Text) : Option PathFault :=
  if t.has ⟨0⟩ then some .zero
  else
    match Utf8.nameFault? t with
    | some e => some (.unencodable e)
    | none => if maxPathSize < nameSize t then some (.system .nameTooLong) else none

/-- Follow a path. -/
def lookup (t : FileTree) (followLast : Bool) (p : FilePath) : Except PathFault Place :=
  match pathFault? p.text with
  | some fault => .error fault
  | none =>
    match t.walk followLast maxLinks (if p.isAbsolute then [] else t.current) p.names with
    | .ok place => .ok place
    | .error e => .error (.system e)

/-- The entry that a path leads to, links followed. -/
def stat (t : FileTree) (p : FilePath) : Except PathFault Entry :=
  match t.lookup true p with
  | .ok (.found _ e) => .ok e
  | .ok (.absent ..) => .error (.system .noEntry)
  | .error fault => .error fault

/-- Whether a path leads to an entry that passes a test. A path that leads nowhere does not; any
other trouble on the way is an error. -/
def leadsTo (t : FileTree) (test : Entry → Bool) (p : FilePath) : Except Errno Bool :=
  match t.stat p with
  | .ok e => .ok (test e)
  | .error (.system .noEntry) => .ok false
  | .error (.system .notDirectory) => .ok false
  | .error (.system .tooManyLinks) => .ok false
  | .error (.system e) => .error e
  | .error .zero => .ok false
  | .error (.unencodable _) => .ok false

/-- Whether a path leads to a file. -/
def isFile (t : FileTree) (p : FilePath) : Except Errno Bool :=
  t.leadsTo Entry.isFile p

/-- Whether a path leads to an entry of any kind. -/
def isPresent (t : FileTree) (p : FilePath) : Except Errno Bool :=
  t.leadsTo (fun _ => true) p

/-- The bytes of the file that a path leads to. -/
def readBytes (t : FileTree) (p : FilePath) : Except PathFault Bytes :=
  match t.stat p with
  | .ok (.file bytes _) => .ok bytes
  | .ok _ => .error (.system .isDirectory)
  | .error fault => .error fault

end FileTree

end LintMend
