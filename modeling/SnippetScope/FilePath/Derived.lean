/-
  SnippetScope.FilePath.Derived

  Paths made from other paths: the path of the enclosing directory, a path
  below a directory, and a path with another file name.
-/
import SnippetScope.FilePath

namespace SnippetScope.FilePath

/-- The path starts at the root. -/
def isAbsolute (path : List Char) : Bool :=
  path.head? == some '/'

/-- The pieces without those at the end that stay where they are. -/
def dropIdle (pieces : List (List Char)) : List (List Char) :=
  (pieces.reverse.dropWhile fun piece => piece.isEmpty || piece == ['.']).reverse

/-- The pieces up to the last one that goes somewhere, without that one. -/
def dropLastStep? (pieces : List (List Char)) : Option (List (List Char)) :=
  match dropIdle pieces with
  | [] => none
  | step :: steps => some (dropIdle (step :: steps).dropLast)

/-- Pieces with a slash between neighbours. -/
def joinPieces (pieces : List (List Char)) : List Char :=
  List.intercalate ['/'] pieces

/-- The path of the directory that holds what a path leads to, as far as the
    path itself tells: the path without its last step.  The root has none. -/
def parent? (path : List Char) : Option (List Char) :=
  match Text.splitAt '/' path with
  | [] :: first :: rest => (dropLastStep? (first :: rest)).map fun steps => '/' :: joinPieces steps
  | ['.'] :: rest =>
    match dropLastStep? rest with
    | some steps => some (joinPieces (['.'] :: steps))
    | none => some []
  | pieces => (dropLastStep? pieces).map joinPieces

/-- The path that leads on from a directory; an absolute path does not need
    the directory. -/
def join (directory path : List Char) : List Char :=
  if isAbsolute path then path
  else if directory.isEmpty || directory.getLast? == some '/' then directory ++ path
  else directory ++ '/' :: path

/-- The path with another file name in place of its own, or after it if it
    ends with none. -/
def withFileName (path name : List Char) : List Char :=
  match fileName? path, parent? path with
  | some _, some directory => join directory name
  | _, _ => join path name

/-! ## Order -/

/-- Paths are compared component by component; a path comes before those that
    go on from it. -/
def componentsBefore : List Component → List Component → Bool
  | [], [] => false
  | [], _ :: _ => true
  | _ :: _, [] => false
  | a :: as, b :: bs =>
    if a = b then componentsBefore as bs else a.before b

/-- The order of paths. -/
def before (a b : List Char) : Bool :=
  componentsBefore (components a) (components b)

/-- The paths in their order; paths that are equal in it stay as they are. -/
def sort (paths : List (List Char)) : List (List Char) :=
  paths.mergeSort fun a b => !before b a

end SnippetScope.FilePath
