/-
  SnippetScope.Chart

  The chart that shows where an estimated running time stands among the
  common rates of growth.
-/
import SnippetScope.Chart.Growth
import SnippetScope.Complexity
import SnippetScope.Diagram.Markup

namespace SnippetScope

namespace Chart

open Decimal (tenths)

/-- The size of the chart. -/
def width : Nat := 960
def height : Nat := 640

/-- The colour behind boxes of text. -/
def panelColour : String := "#2d2d2d"

/-- A line through points, of a width and an opacity. -/
def polyline (points : List (Rat × Rat)) (colour width opacity : String) : Markup :=
  .leaf "polyline"
    [("points", " ".intercalate (points.map fun p => tenths p.1 ++ "," ++ tenths p.2)),
      ("fill", "none"), ("stroke", colour), ("stroke-width", width), ("stroke-opacity", opacity)]

/-- White text; further attributes come last. -/
def label (x y : Rat) (content : String) (size : Nat) (anchor : String)
    (further : List (String × String)) : Markup :=
  .node "text"
    ([("x", tenths x), ("y", tenths y), ("font-size", toString size), ("text-anchor", anchor),
      ("fill", "white")] ++ further)
    [.words content]

/-- A digit written as an exponent. -/
def superscript (digit : Nat) : Char :=
  match digit with
  | 0 => '⁰'
  | 1 => '¹'
  | 2 => '²'
  | 3 => '³'
  | 4 => '⁴'
  | 5 => '⁵'
  | 6 => '⁶'
  | 7 => '⁷'
  | 8 => '⁸'
  | _ => '⁹'

/-- The name of a decade. -/
def decadeLabel (decade : Nat) : String :=
  "10" ++ String.singleton (superscript decade)

/-- The horizontal place of a decade. -/
def decadeX (decade : Nat) : Rat :=
  plotLeft + ((decade : Rat) - firstDecade) / (lastDecade - firstDecade : Nat)
    * (plotRight - plotLeft : Nat)

/-- The vertical place of a decade. -/
def decadeY (decade : Nat) : Rat :=
  plotBottom - (decade : Rat) / topDecade * (plotBottom - plotTop : Nat)

/-- A line of the grid. -/
def gridLine (x1 y1 x2 y2 : Rat) : Markup :=
  .leaf "line"
    [("x1", tenths x1), ("y1", tenths y1), ("x2", tenths x2), ("y2", tenths y2),
      ("stroke", "gray"), ("stroke-opacity", "0.3"), ("stroke-width", "0.5")]

/-- The upright line of a decade and its name. -/
def columnGrid (decade : Nat) : List Markup :=
  let x := decadeX decade
  [gridLine x plotTop x plotBottom,
    label x (plotBottom + 22) (decadeLabel decade) 11 "middle" []]

/-- The level line of a decade and its name. -/
def rowGrid (decade : Nat) : List Markup :=
  let y := decadeY decade
  [gridLine plotLeft y plotRight y, label (plotLeft - 10) (y + 4) (decadeLabel decade) 11 "end" []]

/-- The grid and its frame. -/
def grid : List Markup :=
  ([1, 2, 3, 4].flatMap columnGrid) ++ ((List.range (topDecade + 1)).flatMap rowGrid)
    ++ [.leaf "rect" [("x", tenths plotLeft), ("y", tenths plotTop),
        ("width", tenths (plotRight - plotLeft : Nat)),
        ("height", tenths (plotBottom - plotTop : Nat)), ("fill", "none"), ("stroke", "gray")]]

/-- The curve of a rate; that of the detected one is stronger and glows. -/
def curve (detected : String) (growth : Growth) : List Markup :=
  if growth.label = detected then
    [polyline (points growth) growth.colour "8" "0.3",
      polyline (points growth) growth.colour "4" "0.9"]
  else [polyline (points growth) growth.colour "2" "0.6"]

/-- A box behind lines of text. -/
def panel (x y : Rat) (width : Nat) (height : Rat) : Markup :=
  .leaf "rect" [("x", tenths x), ("y", tenths y), ("width", toString width),
    ("height", tenths height), ("rx", "6"), ("fill", panelColour), ("stroke", "gray"),
    ("fill-opacity", "0.9")]

/-- A line of the legend. -/
def legendLine (detected : String) (growth : Growth) (i : Nat) : List Markup :=
  let x : Rat := plotRight + 20
  let y : Rat := plotTop + 20 + i * 26
  [polyline [(x + 12, y), (x + 42, y)] growth.colour
      (if growth.label = detected then "4" else "2") "1",
    label (x + 52) (y + 4) growth.label 12 "start" []]

/-- The legend. -/
def legend (detected : String) : List Markup :=
  panel (plotRight + 20) plotTop 170 (Growth.all.length * 26 + 14)
    :: Growth.all.zipIdx.flatMap fun (growth, i) => legendLine detected growth i

/-- The lines on the counts behind the estimate. -/
def annotationLines (e : Estimate) : List String :=
  ["Algorithm Analysis:",
    "• Time Complexity: " ++ e.time.label,
    "• Space Complexity: " ++ e.space.label,
    "• Loop Keywords: " ++ toString e.loops,
    "• Max Nesting: " ++ toString e.depth,
    "• Functions: " ++ toString e.functions,
    "• Variables: " ++ toString e.variableCount]

/-- The box with the counts behind the estimate. -/
def annotation (e : Estimate) : List Markup :=
  let ls := annotationLines e
  let x : Rat := plotLeft + 12
  let y : Rat := plotTop + 12
  panel x y 250 (ls.length * 18 + 12)
    :: ls.zipIdx.map fun (line, i) =>
      label (x + 10) (y + 22 + i * 18) line 12 "start" [("font-family", "monospace")]

/-- The titles of the chart and of its axes. -/
def titles (detected : String) : List Markup :=
  let bold := ("font-weight", "bold")
  let middle : Rat := ((plotTop + plotBottom : Nat) : Rat) / 2
  [label (width / 2 : Nat) 36 "Algorithm Complexity Analysis" 18 "middle" [bold],
    label (width / 2 : Nat) 62 ("Detected: " ++ detected) 16 "middle" [bold],
    label (((plotLeft + plotRight : Nat) : Rat) / 2) (height - 20 : Nat) "Input Size (n)" 14
      "middle" [bold],
    label 24 middle "Time Complexity" 14 "middle"
      [bold, ("transform", "rotate(-90 24 " ++ tenths middle ++ ")")]]

/-- The dark background. -/
def background : Markup :=
  .leaf "rect" [("width", "100%"), ("height", "100%"), ("fill", "#1a1a1a")]

end Chart

/-- The chart of an estimate. -/
def chart (e : Estimate) : String :=
  let detected := e.time.label
  Markup.document "svg"
    [("xmlns", "http://www.w3.org/2000/svg"), ("width", toString Chart.width),
      ("height", toString Chart.height),
      ("viewBox", "0 0 " ++ toString Chart.width ++ " " ++ toString Chart.height),
      ("font-family", "sans-serif")]
    (Chart.background :: Chart.grid ++ Growth.all.flatMap (Chart.curve detected)
      ++ Chart.annotation e ++ Chart.legend detected ++ Chart.titles detected)

end SnippetScope
