/-
  SnippetScope.FileTree

  A tree of files: directories with named entries, files with their bytes, and
  links to other places.
-/
import SnippetScope.FilePath

namespace SnippetScope

/-- An entry of a file tree. -/
inductive FileTree where
  | file (content : ByteArray)
  | link (target : List Char)
  | directory (entries : List (List Char × FileTree))

namespace FileTree

/-- A place in a tree: the names that lead there from the root. -/
abbrev Location := List (List Char)

/-- The entry at a place; links on the way are not followed. -/
def get? : FileTree → Location → Option FileTree
  | tree, [] => some tree
  | directory entries, name :: rest => (entries.lookup name).bind (get? · rest)
  | _, _ :: _ => none

/-- Puts an entry under a name, in place of one that is there already. -/
def putEntry (name : List Char) (entry : FileTree) :
    List (List Char × FileTree) → List (List Char × FileTree)
  | [] => [(name, entry)]
  | (n, e) :: rest => if n = name then (n, entry) :: rest else (n, e) :: putEntry name entry rest

/-- Puts an entry at a place.  The directory it lies in must be there;
    otherwise nothing changes. -/
def put (entry : FileTree) : FileTree → Location → FileTree
  | _, [] => entry
  | directory entries, name :: rest =>
    match entries.lookup name, rest with
    | some child, _ => directory (putEntry name (put entry child rest) entries)
    | none, [] => directory (putEntry name entry entries)
    | none, _ :: _ => directory entries
  | tree, _ :: _ => tree

mutual
/-- The number of directories in a tree. -/
def directoryCount : FileTree → Nat
  | directory entries => 1 + directoryCountIn entries
  | _ => 0

/-- The number of directories among entries. -/
def directoryCountIn : List (List Char × FileTree) → Nat
  | [] => 0
  | (_, entry) :: rest => directoryCount entry + directoryCountIn rest
end

mutual
/-- What lies in a tree, each with its place below the given one: files with
    their bytes, and directories. -/
def contents (below : Location) : FileTree → List (Location × Option ByteArray)
  | file content => [(below, some content)]
  | link _ => []
  | directory entries => (below, none) :: contentsIn below entries

/-- What lies among entries. -/
def contentsIn (below : Location) :
    List (List Char × FileTree) → List (Location × Option ByteArray)
  | [] => []
  | (name, entry) :: rest => contents (below ++ [name]) entry ++ contentsIn below rest
end

/-- The files and directories that a tree has and an earlier one has not, or
    not with the same bytes. -/
def changes (earlier later : FileTree) : List (Location × Option ByteArray) :=
  let known := earlier.contents []
  (later.contents []).filter fun (place, content) => !known.contains (place, content)

end FileTree

/-! ## Faults -/

/-- Why a place cannot be reached, read or written. -/
inductive FileFault where
  | missing
  | alreadyThere
  | notDirectory
  | isDirectory
  | tooManyLinks
  /-- The bytes of a file are no text. -/
  | notText
  deriving DecidableEq, Repr

/-- The text of a fault, with the number that the system gives it. -/
def FileFault.message : FileFault → String
  | missing => "No such file or directory (os error 2)"
  | alreadyThere => "File exists (os error 17)"
  | notDirectory => "Not a directory (os error 20)"
  | isDirectory => "Is a directory (os error 21)"
  | tooManyLinks => "Too many levels of symbolic links (os error 40)"
  | notText => "stream did not contain valid UTF-8"

end SnippetScope
