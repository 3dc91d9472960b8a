/-
  SnippetScope.Proofs.Diagram.Drawings

  What the drawings of structures consist of: which elements in which order
  (`map_element_draw`), and which texts (`filterMap_caption?_draw`).  In a tree
  every value but the root is the child of exactly one other value
  (`flatMap_children`), so there is one line less than there are values.
-/
import SnippetScope.Diagram
import SnippetScope.Proofs.Diagram.Tags

namespace SnippetScope

/-- As many values are shown as there are. -/
theorem Sample.length_shown (sample : Sample) : sample.shown.length = sample.size := by
  cases sample <;> simp [shown, size]

namespace Diagram

/-! ## Shapes -/

namespace Shape

/-- The name of the element that a shape becomes. -/
def element : Shape → String
  | box .. => "rect"
  | disc .. => "circle"
  | link .. => "line"
  | label .. => "text"
  | panel .. => "rect"
  | note .. => "text"

/-- The text that a shape shows. -/
def caption? : Shape → Option String
  | label _ _ content _ => some content
  | note _ _ content => some content
  | _ => none

/-- The colours of a shape have no quotation marks in their names. -/
def HasPlainColours : Shape → Prop
  | box _ _ _ _ palette => '"' ∉ palette.fill.toList ∧ '"' ∉ palette.stroke.toList
  | disc _ _ _ palette => '"' ∉ palette.fill.toList ∧ '"' ∉ palette.stroke.toList
  | label _ _ _ look => '"' ∉ look.colour.toList
  | _ => True

end Shape

theorem quote_not_mem_toString (n : Nat) : '"' ∉ (toString n).toList := by
  intro h
  rw [Nat.toString_eq_ofList_toDigits, String.toList_ofList] at h
  have hdigit : '"'.isDigit = true := Nat.isDigit_of_mem_toDigits (by omega) (by omega) h
  exact absurd hdigit (by decide)

theorem quote_not_mem_pixels (length : Rat) : '"' ∉ (pixels length).toList := by
  have hsign : ∀ b : Bool, '"' ∉ (if b then "-" else "").toList := by decide
  rw [pixels, Decimal.tenths]
  simp only [String.toList_append, List.mem_append, not_or]
  refine ⟨⟨⟨?_, quote_not_mem_toString _⟩, by decide⟩, quote_not_mem_toString _⟩
  split
  · exact hsign true
  · exact hsign false

theorem palette_plain (kind : StructureKind) :
    '"' ∉ (palette kind).fill.toList ∧ '"' ∉ (palette kind).stroke.toList := by
  cases kind <;> decide

theorem Shape.sound_markup {shape : Shape} (h : shape.HasPlainColours) : shape.markup.Sound := by
  have hpixels := quote_not_mem_pixels
  cases shape with
  | box x y width height palette =>
      refine .leaf (by decide) ?_
      simp [Markup.AreQuoted, paint, hpixels, h.1, h.2]
  | disc x y radius palette =>
      refine .leaf (by decide) ?_
      simp [Markup.AreQuoted, paint, hpixels, h.1, h.2]
  | link x1 y1 x2 y2 arrow =>
      refine .leaf (by decide) ?_
      cases arrow <;> simp [Markup.AreQuoted, hpixels]
  | label x y content look =>
      refine .node (by decide) ?_ (by simpa using .words content)
      obtain ⟨size, anchor, bold, colour⟩ := look
      have hcolour : '"' ∉ colour.toList := h
      have hsize : '"' ∉ Nat.toDigits 10 size := by simpa using quote_not_mem_toString size
      cases anchor <;> cases bold <;>
        simp [Markup.AreQuoted, hpixels, hcolour, hsize, Anchor.name]
  | panel x y width height =>
      refine .leaf (by decide) ?_
      simp [Markup.AreQuoted, hpixels]
  | note x y content =>
      refine .node (by decide) ?_ (by simpa using .words content)
      simp [Markup.AreQuoted, hpixels]

/-! ## What structures are drawn with -/

/-- The elements of a structure with `n` values. -/
def elementsOf (kind : StructureKind) (n : Nat) : List String :=
  let each (names : List String) : List String := (List.replicate n names).flatten
  match kind with
  | .array => "text" :: each ["rect", "text", "text"]
  | .linkedList => "text" :: each ["circle", "text", "line"] ++ ["text"]
  | .stack => "text" :: each ["rect", "text"] ++ ["text"]
  | .queue => "text" :: each ["rect", "text"] ++ ["text", "text"]
  | .binaryTree => "text" :: List.replicate (n - 1) "line" ++ each ["circle", "text"]
  | .hashTable => "text" :: each ["rect", "text", "text"]

/-- Each value followed by its index. -/
def withIndices (values : List String) : List String :=
  values.zipIdx.flatMap fun (value, i) => [value, "[" ++ toString i ++ "]"]

/-- The texts of a structure: its title, its values, and what is written beside
    them. -/
def captionsOf (kind : StructureKind) (values : List String) : List String :=
  match kind with
  | .array => "Array" :: withIndices values
  | .linkedList => "Linked List" :: values ++ ["NULL"]
  | .stack => "Stack" :: values ++ ["← TOP"]
  | .queue => "Queue" :: values ++ ["FRONT", "REAR"]
  | .binaryTree => "Binary Tree" :: values
  | .hashTable => "Hash Table" :: withIndices values

theorem map_element_cells (cell : String × Nat → List Shape) (names : List String)
    (h : ∀ p, (cell p).map Shape.element = names) (values : List String) :
    (values.zipIdx.flatMap cell).map Shape.element
      = (List.replicate values.length names).flatten := by
  rw [List.map_flatMap]
  simp only [h]
  rw [List.flatMap_def, List.map_const', List.length_zipIdx]

theorem filterMap_caption?_cells (cell : String × Nat → List Shape)
    (h : ∀ p, (cell p).filterMap Shape.caption? = [p.1]) (values : List String) :
    (values.zipIdx.flatMap cell).filterMap Shape.caption? = values := by
  rw [List.filterMap_flatMap]
  simp only [h]
  rw [← List.map_eq_flatMap, List.zipIdx_map_fst]

/-! ## Lines in a tree -/

/-- The children of the first `m` places are the places from the second on. -/
theorem flatMap_pairs (m : Nat) :
    (List.range m).flatMap (fun i => [2 * i + 1, 2 * i + 2]) = List.range' 1 (2 * m) := by
  induction m with
  | zero => rfl
  | succ m ih =>
      rw [List.range_succ, List.flatMap_append, ih, List.flatMap_singleton, Nat.mul_succ,
        ← List.range'_append_1, Nat.add_comm 1]
      rfl

/-- Every value but the root is the child of exactly one other value. -/
theorem flatMap_children (n : Nat) :
    (List.range n).flatMap (fun i => [2 * i + 1, 2 * i + 2].filter (· < n))
      = List.range' 1 (n - 1) := by
  rw [← List.filter_flatMap, flatMap_pairs]
  cases n with
  | zero => rfl
  | succ n =>
      -- The first half of the children are among the values, the others behind them.
      have hsplit : List.range' 1 (2 * (n + 1))
          = List.range' 1 n ++ List.range' (1 + n) (n + 2) := by
        rw [List.range'_append_1]
        congr 1
        omega
      have hbelow : (List.range' 1 n).filter (· < n + 1) = List.range' 1 n := by
        rw [List.filter_eq_self]
        intro i hi
        rw [List.mem_range'_1] at hi
        simpa using by omega
      have habove : (List.range' (1 + n) (n + 2)).filter (· < n + 1) = [] := by
        rw [List.filter_eq_nil_iff]
        intro i hi
        rw [List.mem_range'_1] at hi
        simpa using by omega
      rw [hsplit, List.filter_append, hbelow, habove, List.append_nil]
      rfl

theorem map_element_treeLinks (x top : Rat) (n : Nat) :
    ((List.range n).flatMap (treeLinks x top n)).map Shape.element
      = List.replicate (n - 1) "line" := by
  have hline : ∀ i, (treeLinks x top n i).map Shape.element
      = ([2 * i + 1, 2 * i + 2].filter (· < n)).map fun _ => "line" := by
    intro i
    rw [treeLinks, List.map_map]
    rfl
  rw [List.map_flatMap]
  simp only [hline]
  rw [← List.map_flatMap, flatMap_children, List.map_const', List.length_range']

theorem filterMap_caption?_treeLinks (x top : Rat) (n : Nat) :
    ((List.range n).flatMap (treeLinks x top n)).filterMap Shape.caption? = [] := by
  rw [List.filterMap_eq_nil_iff]
  intro shape hshape
  obtain ⟨i, -, hmem⟩ := List.mem_flatMap.mp hshape
  obtain ⟨child, -, rfl⟩ := List.mem_map.mp hmem
  rfl

/-! ## Drawings -/

theorem map_element_draw (kind : StructureKind) (x y : Rat) (values : List String) :
    (draw kind x y values).shapes.map Shape.element = elementsOf kind values.length := by
  cases kind with
  | array =>
      simp only [draw, drawArray, List.map_cons]
      rw [map_element_cells _ ["rect", "text", "text"] fun _ => rfl]
      rfl
  | linkedList =>
      simp only [draw, drawLinkedList, List.map_append, List.map_cons]
      rw [map_element_cells _ ["circle", "text", "line"] fun _ => rfl]
      rfl
  | stack =>
      simp only [draw, drawStack, List.map_append, List.map_cons]
      rw [map_element_cells _ ["rect", "text"] fun _ => rfl]
      rfl
  | queue =>
      simp only [draw, drawQueue, List.map_append, List.map_cons]
      rw [map_element_cells _ ["rect", "text"] fun _ => rfl]
      rfl
  | binaryTree =>
      simp only [draw, drawTree, List.map_append, List.map_cons, map_element_treeLinks]
      rw [map_element_cells _ ["circle", "text"] fun _ => rfl]
      rfl
  | hashTable =>
      simp only [draw, drawHashTable, List.map_cons]
      rw [map_element_cells _ ["rect", "text", "text"] fun _ => rfl]
      rfl

theorem filterMap_caption?_heading (kind : StructureKind) (x y : Rat) (shapes : List Shape) :
    (heading kind x y :: shapes).filterMap Shape.caption?
      = kind.title :: shapes.filterMap Shape.caption? := by
  have hcaption : (heading kind x y).caption? = some kind.title := rfl
  rw [List.filterMap_cons_some hcaption]

theorem filterMap_caption?_draw (kind : StructureKind) (x y : Rat) (values : List String) :
    (draw kind x y values).shapes.filterMap Shape.caption? = captionsOf kind values := by
  cases kind with
  | array =>
      simp only [draw, drawArray]
      rw [filterMap_caption?_heading, List.filterMap_flatMap]
      rfl
  | linkedList =>
      simp only [draw, drawLinkedList]
      rw [List.cons_append, filterMap_caption?_heading, List.filterMap_append,
        filterMap_caption?_cells _ fun _ => rfl]
      rfl
  | stack =>
      simp only [draw, drawStack]
      rw [List.cons_append, filterMap_caption?_heading, List.filterMap_append,
        filterMap_caption?_cells _ fun _ => rfl]
      rfl
  | queue =>
      simp only [draw, drawQueue]
      rw [List.cons_append, filterMap_caption?_heading, List.filterMap_append,
        filterMap_caption?_cells _ fun _ => rfl]
      rfl
  | binaryTree =>
      simp only [draw, drawTree]
      rw [List.cons_append, filterMap_caption?_heading, List.filterMap_append,
        filterMap_caption?_treeLinks, filterMap_caption?_cells _ fun _ => rfl]
      rfl
  | hashTable =>
      simp only [draw, drawHashTable]
      rw [filterMap_caption?_heading, List.filterMap_flatMap]
      rfl

/-- The colours of all shapes in a list are plain. -/
def ArePlain (shapes : List Shape) : Prop :=
  ∀ shape ∈ shapes, shape.HasPlainColours

theorem ArePlain.append {shapes others : List Shape} (h : ArePlain shapes)
    (hothers : ArePlain others) : ArePlain (shapes ++ others) :=
  List.forall_mem_append.mpr ⟨h, hothers⟩

theorem ArePlain.heading {kind : StructureKind} {x y : Rat} {shapes : List Shape}
    (h : ArePlain shapes) : ArePlain (heading kind x y :: shapes) := by
  have hcolour : '"' ∉ "#222".toList := by decide
  exact List.forall_mem_cons.mpr ⟨hcolour, h⟩

theorem arePlain_cells {cell : String × Nat → List Shape} (h : ∀ p, ArePlain (cell p))
    (values : List String) : ArePlain (values.zipIdx.flatMap cell) := by
  intro shape hshape
  obtain ⟨p, -, hmem⟩ := List.mem_flatMap.mp hshape
  exact h p shape hmem

theorem arePlain_treeLinks (x top : Rat) (n : Nat) :
    ArePlain ((List.range n).flatMap (treeLinks x top n)) := by
  intro shape hshape
  obtain ⟨i, -, hmem⟩ := List.mem_flatMap.mp hshape
  obtain ⟨child, -, rfl⟩ := List.mem_map.mp hmem
  trivial

theorem arePlain_draw (kind : StructureKind) (x y : Rat) (values : List String) :
    ArePlain (draw kind x y values).shapes := by
  -- All colours are constants: those of the kind, and those of the texts.
  have hcolours := palette_plain kind
  have hlabels : ∀ colour ∈ ["white", "#222", "#666", "red", "green"], '"' ∉ colour.toList := by
    decide
  simp only [List.forall_mem_cons] at hlabels
  obtain ⟨hwhite, hblack, hgrey, hred, hgreen, -⟩ := hlabels
  cases kind with
  | array =>
      refine .heading (arePlain_cells (fun p => ?_) values)
      simp [ArePlain, arrayCell, Shape.HasPlainColours, strongLook, faintLook, *]
  | linkedList =>
      refine .append (.heading (arePlain_cells (fun p => ?_) values)) ?_
      · simp [ArePlain, listNode, Shape.HasPlainColours, strongLook, *]
      · simp [ArePlain, Shape.HasPlainColours, faintLook, *]
  | stack =>
      refine .append (.heading (arePlain_cells (fun p => ?_) values)) ?_
      · simp [ArePlain, stackCell, Shape.HasPlainColours, strongLook, *]
      · simp [ArePlain, Shape.HasPlainColours, *]
  | queue =>
      refine .append (.heading (arePlain_cells (fun p => ?_) values)) ?_
      · simp [ArePlain, queueCell, Shape.HasPlainColours, strongLook, *]
      · simp [ArePlain, Shape.HasPlainColours, strongLook, *]
  | binaryTree =>
      refine .append (.heading (arePlain_treeLinks _ _ _)) (arePlain_cells (fun p => ?_) values)
      simp [ArePlain, treeNode, Shape.HasPlainColours, strongLook, *]
  | hashTable =>
      refine .heading (arePlain_cells (fun p => ?_) values)
      simp [ArePlain, bucket, Shape.HasPlainColours, strongLook, faintLook, *]

end Diagram

end SnippetScope
