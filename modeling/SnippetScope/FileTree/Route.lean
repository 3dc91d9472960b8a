/-
  SnippetScope.FileTree.Route

  Where a path leads in a file tree.
-/
import SnippetScope.FilePath.Derived
import SnippetScope.FileTree

namespace SnippetScope.FileTree

/-- The steps that a path asks for.  A slash at the end asks for a directory,
    as a dot there does. -/
def steps (path : List Char) : List (List Char) :=
  let named := (Text.splitAt '/' path).filter (!·.isEmpty)
  if !named.isEmpty && path.getLast? == some '/' then named ++ [['.']] else named

/-- Where a path starts from a directory. -/
def origin (here : Location) (path : List Char) : Location :=
  if FilePath.isAbsolute path then [] else here

/-- Goes on from a place step by step.  Every step needs a directory; at a
    link `onLink` goes on from the link's directory over the link's own steps. -/
def advance (root : FileTree)
    (onLink : Location → (target : List Char) → (rest : List (List Char)) →
      Except FileFault Location) :
    Location → List (List Char) → Except FileFault Location
  | place, [] => .ok place
  | place, step :: rest =>
    match root.get? place with
    | some (directory entries) =>
      if step = ['.'] then advance root onLink place rest
      else if step = ['.', '.'] then advance root onLink place.dropLast rest
      else match entries.lookup step with
        | none => .error .missing
        | some (link target) => onLink place target rest
        | some _ => advance root onLink (place ++ [step]) rest
    | _ => .error .notDirectory

/-- Goes on from a place over a number of links at most. -/
def route (root : FileTree) :
    (links : Nat) → Location → List (List Char) → Except FileFault Location
  | 0 => advance root fun _ _ _ => .error .tooManyLinks
  | links + 1 => advance root fun place target rest =>
    route root links (origin place target) (steps target ++ rest)

/-- The number of links that one path may lead over. -/
def linkLimit : Nat := 40

/-- The place that a path leads to. -/
def find (root : FileTree) (here : Location) (path : List Char) : Except FileFault Location :=
  if path.isEmpty then .error .missing
  else route root linkLimit (origin here path) (steps path)

/-- The entry that a path leads to. -/
def entry (root : FileTree) (here : Location) (path : List Char) : Except FileFault FileTree := do
  match root.get? (← find root here path) with
  | some entry => .ok entry
  | none => .error .missing

/-- A path leads to something. -/
def reaches (root : FileTree) (here : Location) (path : List Char) : Bool :=
  (entry root here path).isOk

/-- The text of the file that a path leads to. -/
def readText (root : FileTree) (here : Location) (path : List Char) : Except FileFault String := do
  match ← entry root here path with
  | file content =>
    match String.fromUTF8? content with
    | some text => .ok text
    | none => .error .notText
  | _ => .error .isDirectory

end SnippetScope.FileTree
