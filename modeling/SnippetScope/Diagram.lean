/-
  SnippetScope.Diagram

  The diagram of a snippet's data structures: a title, the structures one
  below the other, and a box with the summary.
-/
import SnippetScope.Diagram.Drawing
import SnippetScope.Language
import SnippetScope.Unicode.UpperCase

namespace SnippetScope

namespace Diagram

/-- The margin on all sides. -/
def margin : Rat := 1

/-- The gap between two structures. -/
def gap : Rat := 4 / 5

/-- Where the first structure starts. -/
def firstTop : Rat := 8 / 5

/-- A drawing and where it starts. -/
structure Placed where
  top : Rat
  drawing : Drawing
  deriving DecidableEq, Repr

/-- The end of the room that a placed drawing takes. -/
def Placed.bottom (p : Placed) : Rat := p.top + p.drawing.height

/-- The structures one below the other, from `top` on, and where the next one
    would start. -/
def stackFrom (top : Rat) : List SampledStructure → List Placed × Rat
  | [] => ([], top)
  | s :: rest =>
    let drawing := draw s.kind margin top s.sample.shown
    let below := stackFrom (top + drawing.height + gap) rest
    (⟨top, drawing⟩ :: below.1, below.2)

/-- What is drawn for a snippet without structures. -/
def standIn : SampledStructure := ⟨.array, .integers [5, 2, 8, 1, 9]⟩

/-- The structures to be drawn. -/
def shownEntries (structures : StructureSet) : List SampledStructure :=
  if structures.isEmpty then [standIn] else structures.entries

/-- The title of a diagram. -/
def titleText (language : Language) : String :=
  String.ofList (Unicode.upperCase language.displayName.toList)
    ++ " - Data Structure Visualization"

/-- The title as a shape. -/
def titleShape (language : Language) : Shape :=
  .label margin (9 / 10) (titleText language) ⟨18, .start, true, "#222"⟩

/-- The greater of two lengths. -/
def wider (a b : Rat) : Rat := if a < b then b else a

/-- A laid out diagram. -/
structure Layout where
  title : Shape
  structures : List Placed
  summary : Placed
  width : Rat
  height : Rat
  deriving DecidableEq, Repr

/-- The layout of a diagram. -/
def layout (language : Language) (structures : StructureSet) (summary : String) : Layout :=
  let (placed, next) := stackFrom firstTop (shownEntries structures)
  let box : Placed := ⟨next, drawSummary margin next summary⟩
  let widest := (placed.map (·.drawing.width)).foldl wider 0
  let width := wider (wider widest box.drawing.width) ((titleText language).length * (3 / 10))
  { title := titleShape language
    structures := placed
    summary := box
    width := width + 2 * margin
    height := box.bottom + margin }

/-- All shapes of a layout, in the order in which they are drawn. -/
def Layout.shapes (l : Layout) : List Shape :=
  l.title :: l.structures.flatMap (·.drawing.shapes) ++ l.summary.drawing.shapes

/-- The definition of the arrow at the end of a line. -/
def arrowDefinition : Markup :=
  .node "defs" []
    [.node "marker" [("id", "arrow"), ("viewBox", "0 0 10 10"), ("refX", "10"), ("refY", "5"),
        ("markerWidth", "6"), ("markerHeight", "6"), ("orient", "auto")]
      [.leaf "path" [("d", "M 0 0 L 10 5 L 0 10 z"), ("fill", "#333")]]]

/-- The white background. -/
def background : Markup :=
  .leaf "rect" [("width", "100%"), ("height", "100%"), ("fill", "white")]

/-- The document of a layout. -/
def Layout.text (l : Layout) : String :=
  Markup.document "svg"
    [("xmlns", "http://www.w3.org/2000/svg"), ("width", pixels l.width),
      ("height", pixels l.height),
      ("viewBox", "0 0 " ++ pixels l.width ++ " " ++ pixels l.height),
      ("font-family", "sans-serif")]
    (arrowDefinition :: background :: l.shapes.map (·.markup))

end Diagram

/-- The diagram of the structures of a snippet, with a summary. -/
def diagram (language : Language) (structures : StructureSet) (summary : String) : String :=
  (Diagram.layout language structures summary).text

end SnippetScope
