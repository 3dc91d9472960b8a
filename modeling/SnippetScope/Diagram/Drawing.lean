/-
  SnippetScope.Diagram.Drawing

  How each kind of structure is drawn from its values, and the box with the
  summary.  A drawing starts at a given corner and tells how much room it
  takes to the right and downwards.
-/
import SnippetScope.Diagram.Shape
import SnippetScope.Text.Lines

namespace SnippetScope.Diagram

/-- Shapes and the room they take. -/
structure Drawing where
  shapes : List Shape
  width : Rat
  height : Rat
  deriving DecidableEq, Repr

/-- Centred bold text. -/
def strongLook (size : Nat) (colour : String) : Look := ⟨size, .middle, true, colour⟩

/-- Centred plain text in grey. -/
def faintLook : Look := ⟨10, .middle, false, "#666"⟩

/-- The title above a structure. -/
def heading (kind : StructureKind) (x y : Rat) : Shape :=
  .label x (y + 2 / 5) kind.title (strongLook 14 "#222")

/-- An index in brackets. -/
def bracketed (i : Nat) : String := "[" ++ toString i ++ "]"

/-! ## Arrays -/

/-- A cell of an array with its value and its index. -/
def arrayCell (x y : Rat) (value : String) (i : Nat) : List Shape :=
  let left := x + i * (3 / 2)
  [.box left (y + 4 / 5) (3 / 2) (4 / 5) (palette .array),
    .label (left + 3 / 4) (y + 6 / 5) value (strongLook 12 "white"),
    .label (left + 3 / 4) (y + 19 / 10) (bracketed i) faintLook]

/-- Cells side by side. -/
def drawArray (x y : Rat) (values : List String) : Drawing where
  shapes := heading .array (x + values.length * (3 / 2) / 2) y
    :: values.zipIdx.flatMap fun (value, i) => arrayCell x y value i
  width := values.length * (3 / 2)
  height := 11 / 5

/-! ## Linked lists -/

/-- A node of a linked list with its value and the arrow to what follows; the
    last of `n` nodes points to the end mark. -/
def listNode (x y : Rat) (n : Nat) (value : String) (i : Nat) : List Shape :=
  let centre := x + 3 / 5 + i * 3
  let middle := y + 8 / 5
  let next := if i + 1 < n then centre + 3 - 3 / 5 else centre + 2 - 3 / 5
  [.disc centre middle (3 / 5) (palette .linkedList),
    .label centre middle value (strongLook 12 "white"),
    .link (centre + 3 / 5) middle next middle true]

/-- Nodes side by side, and a mark for the end. -/
def drawLinkedList (x y : Rat) (values : List String) : Drawing :=
  let n := values.length
  let first := x + 3 / 5
  let last := first + (n - 1 : Nat) * 3
  { shapes := heading .linkedList ((first + last) / 2) y
      :: (values.zipIdx.flatMap fun (value, i) => listNode x y n value i)
      ++ [.label (last + 2) (y + 8 / 5) "NULL" faintLook]
    width := last + 2 - x + 4 / 5
    height := 12 / 5 }

/-! ## Stacks -/

/-- A cell of a stack of `n` values; later values lie on top. -/
def stackCell (x y : Rat) (n : Nat) (value : String) (i : Nat) : List Shape :=
  let top := y + 4 / 5 + (n - 1 - i : Nat) * (4 / 5)
  [.box x top 2 (4 / 5) (palette .stack),
    .label (x + 1) (top + 2 / 5) value (strongLook 12 "#222")]

/-- Cells on top of each other, with a mark at the uppermost. -/
def drawStack (x y : Rat) (values : List String) : Drawing where
  shapes := heading .stack (x + 1) y
    :: (values.zipIdx.flatMap fun (value, i) => stackCell x y values.length value i)
    ++ [.label (x + 2 + 3 / 10) (y + 4 / 5 + 2 / 5) "← TOP" ⟨10, .start, true, "red"⟩]
  width := 2 + 3 / 2
  height := 4 / 5 + values.length * (4 / 5)

/-! ## Queues -/

/-- A cell of a queue. -/
def queueCell (x y : Rat) (value : String) (i : Nat) : List Shape :=
  let left := x + i * (3 / 2)
  let top := y + 13 / 10
  [.box left top (3 / 2) 1 (palette .queue),
    .label (left + 3 / 4) (top + 1 / 2) value (strongLook 12 "white")]

/-- Cells side by side, with marks at both ends. -/
def drawQueue (x y : Rat) (values : List String) : Drawing where
  shapes := heading .queue (x + values.length * (3 / 2) / 2) y
    :: (values.zipIdx.flatMap fun (value, i) => queueCell x y value i)
    ++ [.label (x + 3 / 4) (y + 1) "FRONT" (strongLook 10 "green"),
      .label (x + ((values.length : Rat) - 1) * (3 / 2) + 3 / 4) (y + 1) "REAR"
        (strongLook 10 "red")]
  width := values.length * (3 / 2)
  height := 23 / 10

/-! ## Binary trees -/

/-- The width of a tree. -/
def treeWidth : Rat := 8

/-- The level of the value at `i`, counted from the root at zero. -/
def treeLevel (i : Nat) : Nat := (i + 1).log2

/-- The centre of the value at `i`, relative to the corner of the tree.  The
    places of a level divide the width evenly. -/
def treePlace (i : Nat) : Rat × Rat :=
  let level := treeLevel i
  let room := treeWidth / (Nat.pow 2 level : Nat)
  let place : Nat := i - (Nat.pow 2 level - 1)
  (place * room + room / 2, level * 2)

/-- The line from the value at `i` to the one at `child`. -/
def treeLink (x top : Rat) (i child : Nat) : Shape :=
  let (x1, y1) := treePlace i
  let (x2, y2) := treePlace child
  .link (x + x1) (top + y1 + 1 / 2) (x + x2) (top + y2 - 1 / 2) false

/-- The lines from the value at `i` to its children among `n` values. -/
def treeLinks (x top : Rat) (n i : Nat) : List Shape :=
  ([2 * i + 1, 2 * i + 2].filter (· < n)).map (treeLink x top i)

/-- A node of a tree with its value. -/
def treeNode (x top : Rat) (value : String) (i : Nat) : List Shape :=
  let (dx, dy) := treePlace i
  [.disc (x + dx) (top + dy) (1 / 2) (palette .binaryTree),
    .label (x + dx) (top + dy) value (strongLook 10 "#222")]

/-- The number of levels of a tree with `n` values. -/
def treeLevels (n : Nat) : Nat :=
  if n = 0 then 0 else treeLevel (n - 1) + 1

/-- Nodes level by level, all lines before all nodes. -/
def drawTree (x y : Rat) (values : List String) : Drawing :=
  let n := values.length
  let top := y + 7 / 5
  { shapes := heading .binaryTree (x + treeWidth / 2) y
      :: (List.range n).flatMap (treeLinks x top n)
      ++ values.zipIdx.flatMap fun (value, i) => treeNode x top value i
    width := treeWidth
    height := 1 + treeLevels n * 2 }

/-! ## Hash tables -/

/-- A bucket of a hash table with its entry and its index. -/
def bucket (x y : Rat) (entry : String) (i : Nat) : List Shape :=
  let left := x + 4 / 5
  let top := y + 4 / 5 + i * (4 / 5)
  [.box left top 3 (4 / 5) (palette .hashTable),
    .label (left + 3 / 2) (top + 2 / 5) entry (strongLook 11 "white"),
    .label (x + 3 / 10) (top + 2 / 5) (bracketed i) faintLook]

/-- Buckets one below the other. -/
def drawHashTable (x y : Rat) (values : List String) : Drawing where
  shapes := heading .hashTable (x + 4 / 5 + 3 / 2) y
    :: values.zipIdx.flatMap fun (entry, i) => bucket x y entry i
  width := 3 + 4 / 5
  height := 4 / 5 + values.length * (4 / 5)

/-! ## All kinds -/

/-- The drawing of a structure from its shown values. -/
def draw (kind : StructureKind) (x y : Rat) (values : List String) : Drawing :=
  match kind with
  | .array => drawArray x y values
  | .linkedList => drawLinkedList x y values
  | .stack => drawStack x y values
  | .queue => drawQueue x y values
  | .binaryTree => drawTree x y values
  | .hashTable => drawHashTable x y values

/-! ## The summary -/

/-- The length of the longest line. -/
def longest (ls : List (List Char)) : Nat :=
  (ls.map List.length).foldl max 0

/-- A line of the summary. -/
def summaryNote (x y : Rat) (line : List Char) (i : Nat) : Shape :=
  .note (x + 2 / 5) (y + 1 / 2 + i * (9 / 20)) (String.ofList line)

/-- The lines of the summary on a background. -/
def drawSummary (x y : Rat) (summary : String) : Drawing :=
  let ls := Text.lines summary.toList
  let width : Rat := longest ls * (11 / 50) + 4 / 5
  let height : Rat := ls.length * (9 / 20) + 3 / 5
  { shapes := .panel x y width height :: ls.zipIdx.map fun (line, i) => summaryNote x y line i
    width
    height }

end SnippetScope.Diagram
