/-
  SnippetScope.FileTree.Change

  Making directories and writing files.
-/
import SnippetScope.FileTree.Route

namespace SnippetScope.FileTree

/-- The last of the steps, and the place that those before it lead to. -/
structure Ending where
  place : Location
  last : List Char

/-- Follows all steps of a path but the last one to a directory; `none` if the
    path ends without a name. -/
def ending? (root : FileTree) (here : Location) (path : List Char) :
    Except FileFault (Option Ending) := do
  let named := (Text.splitAt '/' path).filter (!·.isEmpty)
  match named.getLast? with
  | none => return none
  | some last =>
    let place ← route root linkLimit (origin here path) (named.dropLast ++ [['.']])
    return if last = ['.'] ∨ last = ['.', '.'] then none else some ⟨place, last⟩

/-- Makes a directory; nothing may be in its place. -/
def makeDirectory (root : FileTree) (here : Location) (path : List Char) :
    Except FileFault FileTree := do
  match ← ending? root here path with
  | none => .error .alreadyThere
  | some e =>
    if (root.get? (e.place ++ [e.last])).isSome then .error .alreadyThere
    else .ok (put (directory []) root (e.place ++ [e.last]))

/-- A path leads to a directory. -/
def isDirectoryAt (root : FileTree) (here : Location) (path : List Char) : Bool :=
  match entry root here path with
  | .ok (directory _) => true
  | _ => false

/-- Makes a directory unless there is one already. -/
def ensureDirectory (root : FileTree) (here : Location) (path : List Char) :
    Except FileFault FileTree :=
  match makeDirectory root here path with
  | .ok root => .ok root
  | .error fault => if isDirectoryAt root here path then .ok root else .error fault

/-- A changed tree, and what kept it from changing further. -/
structure Changed where
  tree : FileTree
  fault : Option FileFault

/-- Makes the directories that are missing on the way to a path, from the last
    one that is there on, and the one at its end.  The paths are given from the
    longest to the shortest. -/
def ensureAll (root : FileTree) (here : Location) : List (List Char) → Changed
  | [] => ⟨root, none⟩
  | path :: shorter =>
    match ensureDirectory root here path with
    | .ok root => ⟨root, none⟩
    | .error .missing =>
      let before := ensureAll root here shorter
      match before.fault with
      | some _ => before
      | none =>
        match ensureDirectory before.tree here path with
        | .ok tree => ⟨tree, none⟩
        | .error fault => ⟨before.tree, some fault⟩
    | .error fault => ⟨root, some fault⟩

/-- A path, the path of its directory, and so on up to the last one that says
    something. -/
def lineage : (fuel : Nat) → List Char → List (List Char)
  | 0, _ => []
  | fuel + 1, path =>
    if path.isEmpty then []
    else match FilePath.parent? path with
      | some enclosing => path :: lineage fuel enclosing
      | none => [path]

/-- Makes a directory with all those around it. -/
def ensurePath (root : FileTree) (here : Location) (path : List Char) : Changed :=
  ensureAll root here (lineage (path.length + 1) path)

/-- The place of the file that is written to for a path: the one that is
    there, or a new one in its directory.  At a link it is the place that the
    link stands for. -/
def writePlace (root : FileTree) : (links : Nat) → (here : Location) → (path : List Char) →
    Except FileFault Location
  | links, here, path => do
    match ← ending? root here path with
    | none => .error (if path.isEmpty then .missing else .isDirectory)
    | some e =>
      if path.getLast? = some '/' then .error .isDirectory
      else match root.get? (e.place ++ [e.last]) with
        | some (directory _) => .error .isDirectory
        | some (link target) =>
          match links with
          | 0 => .error .tooManyLinks
          | links + 1 => writePlace root links e.place target
        | _ => .ok (e.place ++ [e.last])

/-- Writes a text to a file, in place of what it held. -/
def writeText (root : FileTree) (here : Location) (path : List Char) (text : String) :
    Except FileFault FileTree := do
  return put (file text.toUTF8) root (← writePlace root linkLimit here path)

end SnippetScope.FileTree
