/-
  SnippetScope.Main

  The program: it loads the files that a command names, runs the command on
  them, and stores what has changed.
-/
import SnippetScope.Command
import SnippetScope.Command.Usage
import SnippetScope.Docs.Service

namespace SnippetScope.Program

/-! ## Loading -/

/-- The absolute path of a place. -/
def pathOf (place : FileTree.Location) : String :=
  "/" ++ String.ofList (FilePath.joinPieces place)

/-- The place of an absolute path without links. -/
def placeOf (path : String) : FileTree.Location :=
  (Text.splitAt '/' path.toList).filter (!·.isEmpty)

/-- What has been loaded. -/
structure Loaded where
  tree : FileTree
  /-- The directories that have been loaded with all below them. -/
  whole : List FileTree.Location

/-- Adds an entry unless something is there. -/
def Loaded.add (l : Loaded) (place : FileTree.Location) (entry : FileTree) : Loaded :=
  if (l.tree.get? place).isSome then l
  else { l with tree := FileTree.put entry l.tree place }

/-- A name that no entry can have. -/
def impossibleName : List Char := [Char.ofNat 0]

mutual
/-- Adds the entry at a place, and all below it if it is a directory and
    `deep` is set. -/
partial def loadAt (deep : Bool) (l : Loaded) (place : FileTree.Location) : IO Loaded := do
  let path := (← IO.FS.realPath (pathOf place.dropLast)) / String.ofList (place.getLast?.getD [])
  match ← path.symlinkMetadata.toBaseIO with
  | .error _ => return l
  | .ok data =>
    match data.type with
    | .dir =>
      let l := l.add place (.directory [])
      if !deep || l.whole.contains place then return l
      else
        let l := { l with whole := place :: l.whole }
        (← path.readDir).foldlM (fun l e => loadAt true l (place ++ [e.fileName.toList])) l
    | .symlink =>
      match ← (IO.FS.realPath path >>= fun real => real.metadata *> pure real).toBaseIO with
      | .error _ => return l.add place (.link impossibleName)
      | .ok real => loadPath deep (l.add place (.link real.toString.toList)) [] real.toString
    | _ => return l.add place (.file (← IO.FS.readBinFile path))

/-- Adds what a path leads to, with the directories on the way. -/
partial def loadPath (deep : Bool) (l : Loaded) (here : FileTree.Location) (path : String) :
    IO Loaded :=
  loadSteps deep l (FileTree.origin here path.toList) (placeOf path)

/-- Adds what steps from a place lead to. -/
partial def loadSteps (deep : Bool) (l : Loaded) (place : FileTree.Location) :
    List (List Char) → IO Loaded
  | [] => if deep then loadAt true l place else pure l
  | step :: rest => do
    if step = ['.'] then loadSteps deep l place rest
    else if step = ['.', '.'] then loadSteps deep l place.dropLast rest
    else
      let place := place ++ [step]
      let l ← loadAt false l place
      match l.tree.get? place with
      | some (.link target) =>
        if target = impossibleName then return l
        else loadSteps deep l (placeOf (String.ofList target)) rest
      | some (.directory _) => loadSteps deep l place rest
      | _ => return l
end

/-! ## Running -/

/-- The paths that a command reads with all below them, and those whose
    surroundings it needs. -/
def pathsOf : Command.Action → List String × List String
  | .analyze options =>
    let read := if options.path = "-" then [] else [options.path]
    let named := [options.settings, options.diagram, options.chart, options.saveDocs]
    (read, Command.settingsNames ++ named.filterMap id)
  | .languages => ([], [])
  | .init output => ([], [output])

/-- The path of the user's own settings. -/
def userSettings : IO (Option String) := do
  let common := (← IO.getEnv "HOME").map (· ++ "/.config")
  let directory := match ← IO.getEnv "XDG_CONFIG_HOME" with
    | some path => if path.startsWith "/" then some path else common
    | none => common
  return directory.map (· ++ "/codelens/codelens.yaml")

/-- Stores what has changed. -/
def store (changes : List (FileTree.Location × Option ByteArray)) : IO Unit :=
  changes.forM fun (place, content) =>
    match content with
    | none => IO.FS.createDirAll (pathOf place)
    | some bytes => IO.FS.writeBinFile (pathOf place) bytes

/-- Runs a command.  There is no connection to any text model. -/
def run (command : Command.Action) : IO UInt32 := do
  let here := placeOf (← IO.FS.realPath ".").toString
  let user ← userSettings
  let (read, named) := pathsOf command
  let l ← loadPath false ⟨.directory [], []⟩ [] (pathOf here)
  let l ← (named ++ user.toList).foldlM (fun l path => loadPath false l here path) l
  let l ← read.foldlM (fun l path => loadPath true l here path) l
  let input ← match command with
    | .analyze options =>
      if options.path = "-" then (← IO.getStdin).readBinToEnd else pure .empty
    | _ => pure .empty
  let environment : Command.Environment :=
    { tree := l.tree, here, input, userSettings := user.map (·.toList) }
  let outcome := command.run environment (← (← IO.getStdout).isTty) fun settings =>
    Docs.Capability.ofSettings settings [] none fun _ => .refused
  store (l.tree.changes outcome.tree)
  IO.eprint outcome.messages
  IO.print outcome.output
  return UInt32.ofNat outcome.exitCode

end SnippetScope.Program

/-- The program with its arguments; the result is the exit code. -/
def main (arguments : List String) : IO UInt32 :=
  match SnippetScope.Command.ofArguments arguments with
  | .ok command => SnippetScope.Program.run command
  | .error stop => do
    if stop.exitCode = 0 then IO.print stop.text else IO.eprint stop.text
    return UInt32.ofNat stop.exitCode
