/-
LintMend.FilePath — paths of files.

A path is its root, if it has one, and the names on the way. Empty names and single points are
dropped when a path is read; two points are kept, since a link may stand before them.

  `FilePath.ofText`, `text` — from and to text
  `join`, `parent`, `name`  — putting paths together and taking them apart
-/
import LintMend.Text.Basic

namespace LintMend

/-- Where a path starts: at the current directory or at the root, which a path with exactly two
slashes in front names in its own way. -/
inductive PathRoot where
  | relative
  | single
  | double
  deriving DecidableEq, Repr, Inhabited

/-- A path of a file. -/
structure FilePath where
  root : PathRoot
  names : List Text
  deriving DecidableEq, Repr, Inhabited

namespace FilePath

/-- The current directory. -/
def current : FilePath := ⟨.relative, []⟩

/-- Whether a name counts when a path is read. -/
def isName (t : Text) : Bool :=
  t != [] && t != "."

/-- The root that a text names by the slashes at its front. -/
def rootOf : Text → PathRoot
  | ⟨0x2F⟩ :: ⟨0x2F⟩ :: ⟨0x2F⟩ :: _ => .single
  | ⟨0x2F⟩ :: ⟨0x2F⟩ :: _ => .double
  | ⟨0x2F⟩ :: _ => .single
  | _ => .relative

/-- Read a path. -/
def ofText (t : Text) : FilePath :=
  ⟨rootOf t, (Text.splitAt '/' t).filter isName⟩

/-- The slashes of a root. -/
def rootText : PathRoot → Text
  | .relative => []
  | .single => "/"
  | .double => "//"

/-- The text of a path; the current directory is a point. -/
def text (p : FilePath) : Text :=
  if p = current then "." else rootText p.root ++ Text.join "/" p.names

/-- Whether a path starts at the root. -/
def isAbsolute (p : FilePath) : Bool :=
  p.root != .relative

/-- The second path taken from the first; an absolute second path stands alone. -/
def join (p q : FilePath) : FilePath :=
  if q.isAbsolute then q else ⟨p.root, p.names ++ q.names⟩

/-- The last name, empty if there is none. -/
def name (p : FilePath) : Text :=
  p.names.getLastD []

/-- The path without its last name. -/
def parent (p : FilePath) : FilePath :=
  ⟨p.root, p.names.dropLast⟩

end FilePath

end LintMend
