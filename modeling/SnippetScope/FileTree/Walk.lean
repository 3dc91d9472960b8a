/-
  SnippetScope.FileTree.Walk

  All files below a directory.  Links are followed, hidden directories and
  those that builds leave behind are passed over.
-/
import SnippetScope.FileTree.Route

namespace SnippetScope.FileTree

/-- Directories that are never entered on a walk. -/
def skippedNames : List String := ["target", "node_modules", "vendor", "__pycache__"]

/-- A directory with this name is passed over. -/
def isSkipped (name : List Char) : Bool :=
  name.head? == some '.' || skippedNames.contains (String.ofList name)

/-- What ends a walk. -/
inductive WalkFault where
  /-- A link leads nowhere. -/
  | broken (path : List Char) (fault : FileFault)
  /-- A link leads back to a directory that the walk is in. -/
  | loop (path ancestor : List Char)
  deriving DecidableEq, Repr

/-- The text of a fault. -/
def WalkFault.message : WalkFault → String
  | broken path fault =>
    "IO error for operation on " ++ String.ofList path ++ ": " ++ fault.message
      ++ ": " ++ fault.message
  | loop path ancestor =>
    "File system loop found: " ++ String.ofList path ++ " points to an ancestor "
      ++ String.ofList ancestor

/-- A directory that a walk is in: where it lies, and the path that led there. -/
structure Visit where
  place : Location
  path : List Char

/-- What a walk does at a link: its name, the path to it and the directories
    around it, the innermost first. -/
abbrev LinkStep :=
  (name target : List Char) → (path : List Char) → List Visit → Except WalkFault (List (List Char))

mutual
/-- The paths of the files in an entry with a name. -/
def walkEntry (onLink : LinkStep) (around : List Visit) (place : Location) (path : List Char)
    (name : List Char) : FileTree → Except WalkFault (List (List Char))
  | file _ => .ok [path]
  | link target => onLink name target path around
  | directory entries =>
    if isSkipped name then .ok []
    else walkEntries onLink (⟨place, path⟩ :: around) place path entries

/-- The paths of the files in entries of a directory. -/
def walkEntries (onLink : LinkStep) (around : List Visit) (place : Location) (path : List Char) :
    List (List Char × FileTree) → Except WalkFault (List (List Char))
  | [] => .ok []
  | (name, entry) :: rest => do
    let found ← walkEntry onLink around (place ++ [name]) (FilePath.join path name) name entry
    let others ← walkEntries onLink around place path rest
    return found ++ others
end

/-- Follows a link on a walk, over a number of further links at most. -/
def walkLink (root : FileTree) : (links : Nat) → LinkStep
  | 0 => fun _ _ _ _ => .ok []
  | links + 1 => fun name target path around =>
    let directoryPlace := match around with
      | visit :: _ => visit.place
      | [] => []
    match route root linkLimit (origin directoryPlace target) (steps target) with
    | .error fault => .error (.broken path fault)
    | .ok place =>
      match root.get? place with
      | some (directory entries) =>
        match around.find? (·.place = place) with
        | some visit => .error (.loop path visit.path)
        | none =>
          if isSkipped name then .ok []
          else walkEntries (walkLink root links) (⟨place, path⟩ :: around) place path entries
      | _ => .ok [path]

/-- The paths of all files below the directory that a path leads to, in the
    order in which they are met.  No chain of links is longer than the tree has
    directories, since every link must lead to a new one. -/
def walk (root : FileTree) (place : Location) (path : List Char) :
    Except WalkFault (List (List Char)) :=
  match root.get? place with
  | some (directory entries) =>
    walkEntries (walkLink root (root.directoryCount + 1)) [⟨place, path⟩] place path entries
  | _ => .ok []

end SnippetScope.FileTree
