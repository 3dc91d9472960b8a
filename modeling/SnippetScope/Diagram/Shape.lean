/-
  SnippetScope.Diagram.Shape

  The shapes that diagrams are made of.  Lengths are exact fractions of a
  unit, which is forty pixels long; the vertical axis points down.
-/
import SnippetScope.Decimal.Tenths
import SnippetScope.Diagram.Markup
import SnippetScope.Structure

namespace SnippetScope

namespace Diagram

/-- The length of a unit in pixels. -/
def unitPixels : Rat := 40

/-- A length in units as a number of pixels. -/
def pixels (units : Rat) : String := Decimal.tenths (units * unitPixels)

/-- The colours of a structure. -/
structure Palette where
  stroke : String
  fill : String
  deriving DecidableEq, Repr

/-- The colours of each kind of structure. -/
def palette : StructureKind → Palette
  | .array => ⟨"#2E86AB", "#A23B72"⟩
  | .linkedList => ⟨"#F18F01", "#C73E1D"⟩
  | .stack => ⟨"#FF6B35", "#F7931E"⟩
  | .queue => ⟨"#8E44AD", "#9B59B6"⟩
  | .binaryTree => ⟨"#3A86FF", "#06FFA5"⟩
  | .hashTable => ⟨"#16537E", "#1F77B4"⟩

/-- Which point of a text its coordinates give. -/
inductive Anchor where
  | start
  | middle
  deriving DecidableEq, Repr

/-- The name of an anchor. -/
def Anchor.name : Anchor → String
  | start => "start"
  | middle => "middle"

/-- How a text looks. -/
structure Look where
  size : Nat
  anchor : Anchor
  bold : Bool
  colour : String
  deriving DecidableEq, Repr

/-- A shape in a diagram. -/
inductive Shape where
  /-- A cell of a structure. -/
  | box (x y width height : Rat) (palette : Palette)
  /-- A node of a structure. -/
  | disc (x y radius : Rat) (palette : Palette)
  /-- A straight line, with or without an arrow at its end. -/
  | link (x1 y1 x2 y2 : Rat) (arrow : Bool)
  /-- A text. -/
  | label (x y : Rat) (content : String) (look : Look)
  /-- The background of the summary. -/
  | panel (x y width height : Rat)
  /-- A line of the summary. -/
  | note (x y : Rat) (content : String)
  deriving DecidableEq, Repr

namespace Shape

/-- The attributes that colour the cells and nodes of a structure. -/
def paint (palette : Palette) : List (String × String) :=
  [("fill", palette.fill), ("stroke", palette.stroke), ("stroke-width", "2"),
    ("fill-opacity", "0.8")]

/-- The shape as an element. -/
def markup : Shape → Markup
  | box x y width height palette =>
    .leaf "rect" ([("x", pixels x), ("y", pixels y), ("width", pixels width),
      ("height", pixels height)] ++ paint palette)
  | disc x y radius palette =>
    .leaf "circle" ([("cx", pixels x), ("cy", pixels y), ("r", pixels radius)] ++ paint palette)
  | link x1 y1 x2 y2 arrow =>
    .leaf "line" ([("x1", pixels x1), ("y1", pixels y1), ("x2", pixels x2), ("y2", pixels y2),
      ("stroke", "#333"), ("stroke-width", "2")]
      ++ if arrow then [("marker-end", "url(#arrow)")] else [])
  | label x y content look =>
    .node "text" [("x", pixels x), ("y", pixels y), ("font-size", toString look.size),
      ("text-anchor", look.anchor.name), ("dominant-baseline", "middle"),
      ("font-weight", if look.bold then "bold" else "normal"), ("fill", look.colour)]
      [.words content]
  | panel x y width height =>
    .leaf "rect" [("x", pixels x), ("y", pixels y), ("width", pixels width),
      ("height", pixels height), ("rx", "8"), ("fill", "#2d2d2d"), ("stroke", "gray")]
  | note x y content =>
    .node "text" [("x", pixels x), ("y", pixels y), ("font-size", "11"),
      ("font-family", "monospace"), ("dominant-baseline", "middle"), ("fill", "white")]
      [.words content]

end Shape

end Diagram

end SnippetScope
