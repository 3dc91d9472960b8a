/-
  SnippetScope.Command.Artifact

  The files that an analysis can write: diagrams, charts and documents.
-/
import SnippetScope.Chart
import SnippetScope.Diagram
import SnippetScope.FileTree.Change
import SnippetScope.Report.Markdown

namespace SnippetScope.Command

/-- What a written file holds. -/
inductive ArtifactKind where
  | diagram
  | chart
  | documents
  deriving DecidableEq, Repr

/-- What a file is called in the message that it could not be written. -/
def ArtifactKind.name : ArtifactKind → String
  | documents => "documentation"
  | _ => "diagram"

/-- What is said once a file has been written. -/
def ArtifactKind.note : ArtifactKind → String
  | diagram => "Diagram written to "
  | chart => "Complexity chart written to "
  | documents => "Documentation saved to "

/-- A file to be written. -/
structure Artifact where
  kind : ArtifactKind
  path : List Char
  text : String
  deriving DecidableEq, Repr

/-! ## Paths -/

/-- The ending of the names of drawings. -/
def drawingExtension : String := "svg"

/-- The name of one of several drawings: the stem of the common name, the
    number of the drawing, the stem of the file it belongs to or the number
    again, and the extension. -/
def drawingName (stem : List Char) (number : Nat) (source : Option (List Char))
    (extension : String) : List Char :=
  let numeral := Nat.toDigits 10 number
  stem ++ '-' :: numeral ++ '-' :: ((source.bind FilePath.stem?).getD numeral)
    ++ '.' :: extension.toList

/-- The paths of several drawings, numbered from `number` on. -/
def numberedPaths (base stem : List Char) (extension : String) :
    (number : Nat) → List (Option (List Char)) → List (List Char)
  | _, [] => []
  | number, source :: rest =>
    FilePath.withFileName base (drawingName stem number source extension)
      :: numberedPaths base stem extension (number + 1) rest

/-- One path for each source.  The drawing of a single source is written to the
    given path itself, those of several next to it. -/
def drawingPaths (base : List Char) (sources : List (Option (List Char))) (extension : String) :
    List (List Char) :=
  match sources with
  | [_] => [base]
  | _ =>
    let stem := (FilePath.stem? base).getD "diagram".toList
    numberedPaths base stem extension 0 sources

/-- The drawings of analyses, each with its path. -/
def drawings (kind : ArtifactKind) (draw : Analysis → String) (base : List Char)
    (analyses : List Analysis) : List Artifact :=
  let paths := drawingPaths base (analyses.map fun a => a.path.map (·.toList)) drawingExtension
  (analyses.zip paths).map fun (a, path) => ⟨kind, path, draw a⟩

/-- The diagram of an analysis. -/
def diagramOf (a : Analysis) : String :=
  diagram a.language a.structures a.summary

/-- The chart of an analysis. -/
def chartOf (a : Analysis) : String :=
  chart a.complexity

/-! ## Writing -/

/-- Writes a file, after the directories that are missing around it; the text
    is the message of what kept it from being written. -/
def Artifact.write (a : Artifact) (here : FileTree.Location) (tree : FileTree) :
    FileTree × Option String :=
  let enclosing := match FilePath.parent? a.path with
    | some [] => none
    | other => other
  let changed := match enclosing with
    | some path => tree.ensurePath here path
    | none => ⟨tree, none⟩
  match enclosing, changed.fault with
  | some path, some fault =>
    (changed.tree, some ("failed to create " ++ String.ofList path ++ ": " ++ fault.message))
  | _, _ =>
    match changed.tree.writeText here a.path a.text with
    | .ok tree => (tree, none)
    | .error fault =>
      (changed.tree, some ("failed to write " ++ a.kind.name ++ " to " ++ String.ofList a.path
        ++ ": " ++ fault.message))

/-- What has become of files to be written. -/
structure Written where
  tree : FileTree
  /-- The files that have been written. -/
  done : List Artifact
  /-- What kept the next one from being written. -/
  failure : Option String

/-- Writes files in their order up to the first that cannot be written. -/
def writeAll (here : FileTree.Location) (tree : FileTree) : List Artifact → Written
  | [] => ⟨tree, [], none⟩
  | a :: rest =>
    match a.write here tree with
    | (tree, some failure) => ⟨tree, [], some failure⟩
    | (tree, none) =>
      let others := writeAll here tree rest
      { others with done := a :: others.done }

/-- What is said of a file that has been written. -/
def Artifact.note (a : Artifact) : String :=
  a.kind.note ++ String.ofList a.path

end SnippetScope.Command
