/-
LintMend.Main — the program on the command line.

The files below the current directory are taken in, the invocation is worked out on them, and
what has changed is written back. Nothing here starts other programs or opens connections: the
output of a build comes from a file or from standard input, a build command counts as one that
may not be run, and the service as one that refuses.
-/
import LintMend.CommandLine.Invocation

namespace LintMend.CommandLine

/-- The path of a location. -/
def pathOf (l : Location) : String :=
  "/" ++ (Text.join "/" l).toString

/-- The entries of a directory, and all below it. -/
partial def takeIn (here : Location) (entries : Array IO.FS.DirEntry) :
    IO (List (Location × Entry)) := do
  let mut found : List (Location × Entry) := []
  for e in entries do
    let l : Location := here ++ [Text.ofString e.fileName]
    match (← e.path.symlinkMetadata).type with
    | .dir =>
      found := found ++ [(l, .directory FileTree.directoryMode)]
      found := found ++ (← takeIn l (← e.path.readDir))
    | _ =>
      if (← e.path.pathExists) && !(← e.path.isDir) then
        let bytes := (← IO.FS.readBinFile e.path).toList
        found := found ++ [(l, .file bytes FileTree.fileMode)]
  return found

/-- The tree of files below the current directory. -/
def takeInTree : IO FileTree := do
  let current ← IO.currentDir
  let here : Location :=
    (Text.splitAt '/' (Text.ofString current.toString)).filter fun name => !name.isEmpty
  let above := (List.range here.length).map fun n =>
    (here.take (n + 1), Entry.directory FileTree.directoryMode)
  return ⟨here, above ++ (← takeIn here (← current.readDir))⟩

/-- Write back what is new or has changed. -/
def writeBack (before after : FileTree) : IO Unit := do
  for (l, e) in after.entries do
    if before.at? l ≠ some e then
      match e with
      | .directory _ => IO.FS.createDirAll (pathOf l)
      | .file bytes mode =>
        IO.FS.writeBinFile (pathOf l) (ByteArray.mk bytes.toArray)
        if mode = FileTree.privateMode then
          IO.setAccessRights (pathOf l) { user := { read := true, write := true } }
      | .link _ => pure ()

/-- The environment variables of this process. -/
def takeInEnvironment : IO Environment := do
  let bytes ← IO.FS.readBinFile "/proc/self/environ"
  let parts := Text.splitAt ⟨0⟩ (Utf8.decodeLossy bytes.toList)
  return parts.filterMap (Text.cut? '=')

/-- All that stands on standard input, if it is to be read. -/
def takeInInput (a : Arguments) : IO Text := do
  if a.input = some standardInputName then
    let bytes ← (← IO.getStdin).readBinToEnd
    return Utf8.decodeLossy bytes.toList
  else return []

end LintMend.CommandLine

open LintMend LintMend.CommandLine in
/-- The program: its words, its output, and its exit code. -/
def main (words : List String) : IO UInt32 := do
  let words := words.map Text.ofString
  let after ← match Arguments.read words with
    | .error _ => pure (invoke words { tree := .empty })
    | .ok a => do
      let tree ← takeInTree
      let after := invoke words {
        tree, environment := ← takeInEnvironment, input := ← takeInInput a
        programs := { ending := .refused .permission } }
      writeBack tree after.tree
      pure after
  IO.print after.output.toString
  for line in after.lines do
    IO.eprintln line.toString
  return UInt32.ofNat after.code
