/-
LintMend.FileTree.Change — changing a tree of files, one step at a time.

  `writeBytes`  — put bytes into the file that a path leads to, or make it
  `appendBytes` — add bytes at the end of it
  `createTemp`  — make a private empty file with a fresh name beside a path; `tempFile`, how that
    file is named when it cannot be made
  `setMode`, `rename` — the other steps of an atomic write
  `makeDirectories` — make a directory and those on its way
  `install`, `removeAll` — what others do
  `snapshot`    — everything below the current directory
-/
import LintMend.FileTree.Lookup

namespace LintMend.FileTree

/-- The file that a path leads to, changed; or a new one, if only its name is missing. -/
def modify (t : FileTree) (p : FilePath) (change : Bytes → Bytes) : Except PathFault FileTree :=
  match t.lookup true p with
  | .error fault => .error fault
  | .ok (.found here (.file bytes mode)) => .ok (t.set here (.file (change bytes) mode))
  | .ok (.found ..) => .error (.system .isDirectory)
  | .ok (.absent directory name) => .ok (t.set (directory ++ [name]) (.file (change []) fileMode))

/-- Replace the bytes of the file that a path leads to, links followed. -/
def writeBytes (t : FileTree) (p : FilePath) (bytes : Bytes) : Except PathFault FileTree :=
  t.modify p fun _ => bytes

/-- Add bytes at the end of the file that a path leads to. -/
def appendBytes (t : FileTree) (p : FilePath) (bytes : Bytes) : Except PathFault FileTree :=
  t.modify p (· ++ bytes)

/-- The names from the root on, with two points taken as the way back, no link being looked
at. -/
def plainNames (names : List Text) : List Text :=
  names.foldl (fun (done : List Text) (name : Text) =>
    if name = ".." then done.dropLast else if name = "." then done else done ++ [name]) []

/-- A path as seen from a directory, from the root on, with two points taken as the way back. -/
def pathFrom (here : Location) (p : FilePath) : FilePath :=
  if p.isAbsolute then ⟨p.root, plainNames p.names⟩
  else ⟨.single, plainNames (here ++ p.names)⟩

/-- A path as seen from the current directory. -/
def absolutePath (t : FileTree) (p : FilePath) : FilePath :=
  pathFrom t.current p

/-- The name of a temporary file beside a file of the given name. In a tree the random part of such
a name is a number. -/
def tempName (name : Text) (n : Nat) : Text :=
  "." ++ name ++ "." ++ Text.ofNatBase 10 8 n ++ ".tmp"

/-- The temporary file beside a path, as refusals name it. -/
def tempFile (here : Location) (p : FilePath) : FileName :=
  .temporary ((pathFrom here p.parent).join ⟨.relative, ["." ++ p.name ++ "."]⟩).text ".tmp"

/-- Make a private empty file beside a path, under the first of the temporary names that is
free. -/
def createTemp (t : FileTree) (p : FilePath) : Except PathFault (Location × FileTree) :=
  let directory := t.absolutePath p.parent
  go directory (List.range (t.entries.length + 1))
where
  /-- Try the names with the given numbers. -/
  go (directory : FilePath) : List Nat → Except PathFault (Location × FileTree)
    | [] => .error (.system .exists)
    | n :: rest =>
      match t.lookup false (directory.join ⟨.relative, [tempName p.name n]⟩) with
      | .error fault => .error fault
      | .ok (.found ..) => go directory rest
      | .ok (.absent parent name) =>
        .ok (parent ++ [name], t.set (parent ++ [name]) (.file [] privateMode))

/-- Give the file at a location new permission bits. -/
def setMode (t : FileTree) (l : Location) (mode : Nat) : FileTree :=
  match t.at? l with
  | some (.file bytes _) => t.set l (.file bytes mode)
  | _ => t

/-- Give the file at a location new bytes. -/
def setBytes (t : FileTree) (l : Location) (bytes : Bytes) : FileTree :=
  match t.at? l with
  | some (.file _ mode) => t.set l (.file bytes mode)
  | _ => t

/-- Whether the last name of a path is a name proper, so that an entry can be moved there. -/
def hasProperName (p : FilePath) : Bool :=
  match p.names.getLast? with
  | some name => name != ".."
  | none => false

/-- Move the file at a location to a path: in place of a file or link, which is not followed, or
to a missing name. -/
def rename (t : FileTree) (l : Location) (p : FilePath) : Except PathFault FileTree :=
  match t.at? l, t.lookup false p with
  | _, .error fault => .error fault
  | none, _ => .error (.system .noEntry)
  | some e, .ok place =>
    if !hasProperName p then .error (.system .busy)
    else
      match place with
      | .found _ (.directory _) => .error (.system .isDirectory)
      | .found here _ => if here = l then .ok t else .ok ((t.set here e).erase l)
      | .absent directory name => .ok ((t.set (directory ++ [name]) e).erase l)

/-- Make a directory under the name that a path gives; there must be nothing yet, not even a
link that leads nowhere. -/
def makeDirectory (t : FileTree) (p : FilePath) : Except PathFault FileTree :=
  match t.lookup false p with
  | .error fault => .error fault
  | .ok (.found ..) => .error (.system .exists)
  | .ok (.absent directory name) => .ok (t.set (directory ++ [name]) (.directory directoryMode))

/-- Make a directory, unless the path leads to one. -/
def ensureDirectory (t : FileTree) (p : FilePath) : FileTree × Except PathFault Unit :=
  match t.makeDirectory p with
  | .ok t => (t, .ok ())
  | .error (.system errno) =>
    match t.leadsTo Entry.isDirectory p with
    | .ok true => (t, .ok ())
    | .ok false => (t, .error (.system errno))
    | .error e => (t, .error (.system e))
  | .error fault => (t, .error fault)

/-- Make a directory, and before it those on its way that are missing. Those that were made stay,
also if one after them cannot be made. -/
def makeDirectories (t : FileTree) (p : FilePath) : FileTree × Except PathFault Unit :=
  go t p.names.reverse
where
  /-- The names of the directory stand in reverse, so that the one it is in has the rest. -/
  go (t : FileTree) : List Text → FileTree × Except PathFault Unit
    | [] => t.ensureDirectory ⟨p.root, []⟩
    | name :: above =>
      let here : FilePath := ⟨p.root, (name :: above).reverse⟩
      match t.ensureDirectory here with
      | (t, .error (.system .noEntry)) =>
        match go t above with
        | (t, .ok ()) => t.ensureDirectory here
        | stopped => stopped
      | done => done

/-- Whether a location is another or lies below it. -/
def isWithin (l m : Location) : Bool :=
  l.isPrefixOf m

/-- The tree without the entry that a path names, and without all below it. -/
def removeAll (t : FileTree) (p : FilePath) : FileTree :=
  match t.lookup false p with
  | .ok (.found here _) => { t with entries := t.entries.filter fun (l, _) => !isWithin here l }
  | _ => t

/-- Put an entry under a path, whatever stood there, with the directories on its way. -/
def install (t : FileTree) (p : FilePath) (e : Entry) : FileTree :=
  let cleared :=
    match e, t.stat p with
    | .directory _, .ok (.directory _) => t
    | _, _ => t.removeAll p
  match cleared.makeDirectories p.parent with
  | (_, .error _) => cleared
  | (ready, .ok ()) =>
    match ready.lookup false p with
    | .ok (.absent directory name) => ready.set (directory ++ [name]) e
    | .ok (.found here _) => ready.set here e
    | .error _ => ready

/-- Where the work directory of a fresh tree lies. -/
def workDirectory : Location := ["tmp", "work"]

/-- A tree with an empty current directory. -/
def empty : FileTree :=
  ⟨workDirectory, [(["tmp"], .directory 0o1777), (workDirectory, .directory directoryMode)]⟩

/-- Everything below the current directory, by path, in the order of the paths. -/
def snapshot (t : FileTree) : List (Text × Entry) :=
  let below := t.entries.filterMap fun (l, e) =>
    if isWithin t.current l && l != t.current then
      some (Text.join "/" (l.drop t.current.length), e)
    else none
  below.mergeSort fun a b => !Text.before b.1 a.1

end LintMend.FileTree
