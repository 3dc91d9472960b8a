/-
  SnippetScope.FilePath

  Paths with `/` between their components: file name, stem and extension, and
  the order of paths component by component.
-/
import SnippetScope.Text.Lines

namespace SnippetScope.FilePath

/-- One step of a path. -/
inductive Component where
  /-- The root, in front of an absolute path. -/
  | root
  /-- The starting directory, written `.` in front of a relative path. -/
  | here
  /-- The enclosing directory, written `..`. -/
  | parent
  /-- An entry of the directory reached so far. -/
  | named (name : List Char)
  deriving DecidableEq, Repr

/-- The step that a piece of a path between slashes stands for; an empty
    piece and a dot stay where they are. -/
def Component.ofPiece? (piece : List Char) : Option Component :=
  if piece = [] ∨ piece = ['.'] then none
  else if piece = ['.', '.'] then some .parent
  else some (.named piece)

/-- The steps of a path.  A dot counts only in front of a relative path. -/
def components (path : List Char) : List Component :=
  let pieces := Text.splitAt '/' path
  let steps := pieces.filterMap Component.ofPiece?
  match pieces with
  | ['.'] :: _ => .here :: steps
  | [] :: _ :: _ => .root :: steps
  | _ => steps

/-- The name of the entry that a path ends with. -/
def fileName? (path : List Char) : Option (List Char) :=
  match (components path).getLast? with
  | some (.named name) => some name
  | _ => none

/-- A file name cut at its last dot, which does not count as the first
    character. -/
def cutExtension (name : List Char) : List Char × Option (List Char) :=
  match name.reverse.span (· != '.') with
  | (tail, _ :: head) => if head.isEmpty then (name, none) else (head.reverse, some tail.reverse)
  | (_, []) => (name, none)

/-- What follows the last dot of the file name. -/
def extension? (path : List Char) : Option (List Char) :=
  (fileName? path).bind fun name => (cutExtension name).2

/-- The file name without its extension. -/
def stem? (path : List Char) : Option (List Char) :=
  (fileName? path).map fun name => (cutExtension name).1

/-- The rank of a component's kind in the order of paths. -/
def Component.rank : Component → Nat
  | .root => 0
  | .here => 1
  | .parent => 2
  | .named _ => 3

/-- Names are compared by code point, kinds by rank. -/
def Component.before : Component → Component → Bool
  | .named a, .named b => a < b
  | a, b => a.rank < b.rank

end SnippetScope.FilePath
