/-
  SnippetScope.Proofs.Diagram.Content

  What a diagram holds, as a reader of its tags finds it (`diagram_content`).
  Which elements there are depends on the kinds of the structures and on how
  many values and lines there are, never on what the values and lines say.
-/
import SnippetScope.Proofs.Diagram.Drawings

namespace SnippetScope

namespace Diagram

open Markup

/-! ## Shapes as a reader finds them -/

theorem names_markup (shape : Shape) : shape.markup.names = [shape.element.toList] := by
  cases shape <;> rfl

theorem namesAll_markup (shapes : List Shape) :
    namesAll (shapes.map (·.markup)) = (shapes.map Shape.element).map String.toList := by
  induction shapes with
  | nil => rfl
  | cons shape shapes ih =>
      rw [List.map_cons, namesAll, names_markup, ih]
      rfl

theorem texts_markup (shape : Shape) (after : List Char × Tags) :
    textsIn "text".toList (shape.markup.before after).2
      = shape.caption?.toList.map escape ++ textsIn "text".toList after.2 := by
  cases shape with
  | box => rfl
  | disc => rfl
  | link => rfl
  | label x y content look =>
      rw [Shape.markup, before, beforeAll, beforeAll, before, textsIn_words, if_pos rfl,
        List.append_nil]
      rfl
  | panel => rfl
  | note x y content =>
      rw [Shape.markup, before, beforeAll, beforeAll, before, textsIn_words, if_pos rfl,
        List.append_nil]
      rfl

theorem texts_shapes (shapes : List Shape) (after : List Char × Tags) :
    textsIn "text".toList (beforeAll (onLines (shapes.map (·.markup))) after).2
      = (shapes.filterMap Shape.caption?).map escape ++ textsIn "text".toList after.2 := by
  induction shapes with
  | nil => rfl
  | cons shape shapes ih =>
      rw [List.map_cons, onLines_cons, beforeAll, beforeAll, texts_markup, before, ih]
      cases hcaption : shape.caption? with
      | none => rw [List.filterMap_cons_none hcaption]; rfl
      | some caption => rw [List.filterMap_cons_some hcaption]; rfl

/-! ## Structures one below the other -/

theorem flatMap_stackFrom {α : Type} (f : List Shape → List α)
    (g : SampledStructure → List α)
    (h : ∀ s x y, f (draw s.kind x y s.sample.shown).shapes = g s)
    (entries : List SampledStructure) (top : Rat) :
    (stackFrom top entries).1.flatMap (fun p => f p.drawing.shapes) = entries.flatMap g := by
  induction entries generalizing top with
  | nil => rfl
  | cons s entries ih => rw [stackFrom, List.flatMap_cons, List.flatMap_cons, h, ih]

theorem arePlain_stackFrom (entries : List SampledStructure) (top : Rat) :
    ArePlain ((stackFrom top entries).1.flatMap (·.drawing.shapes)) := by
  induction entries generalizing top with
  | nil => exact List.forall_mem_nil _
  | cons s entries ih =>
      rw [stackFrom, List.flatMap_cons]
      exact .append (arePlain_draw s.kind margin top s.sample.shown) (ih _)

/-! ## The summary -/

theorem map_element_drawSummary (x y : Rat) (summary : String) :
    (drawSummary x y summary).shapes.map Shape.element
      = "rect" :: List.replicate (Text.lines summary.toList).length "text" := by
  have hnote : Shape.element ∘ (fun p : List Char × Nat => summaryNote x y p.1 p.2)
      = fun _ => "text" := rfl
  rw [drawSummary, List.map_cons, List.map_map, hnote, List.map_const', List.length_zipIdx]
  rfl

theorem filterMap_caption?_drawSummary (x y : Rat) (summary : String) :
    (drawSummary x y summary).shapes.filterMap Shape.caption?
      = (Text.lines summary.toList).map String.ofList := by
  have hnote : Shape.caption? ∘ (fun p : List Char × Nat => summaryNote x y p.1 p.2)
      = some ∘ fun p => String.ofList p.1 := rfl
  rw [drawSummary, List.filterMap_cons_none rfl, List.filterMap_map, hnote,
    List.filterMap_eq_map, ← List.zipIdx_map_fst 0 (Text.lines summary.toList), List.map_map]
  simp

theorem arePlain_drawSummary (x y : Rat) (summary : String) :
    ArePlain (drawSummary x y summary).shapes := by
  refine List.forall_mem_cons.mpr ⟨trivial, ?_⟩
  intro shape hshape
  obtain ⟨p, -, rfl⟩ := List.mem_map.mp hshape
  trivial

/-! ## The whole diagram -/

/-- The elements of a diagram: the header and the title, those of each
    structure, given as its kind and the number of its values, and a box with
    one text for each line of the summary. -/
def elementsOfAll (structures : List (StructureKind × Nat)) (lines : Nat) : List String :=
  ["svg", "defs", "marker", "path", "rect", "text"]
    ++ structures.flatMap (fun s => elementsOf s.1 s.2) ++ "rect" :: List.replicate lines "text"

/-- The texts of a diagram: the title, those of each structure, and the lines
    of the summary. -/
def captionsOfAll (title : String) (structures : List SampledStructure)
    (lines : List (List Char)) : List (List Char) :=
  (title :: structures.flatMap fun s => captionsOf s.kind s.sample.shown).map String.toList ++ lines

theorem arePlain_layout (language : Language) (structures : StructureSet) (summary : String) :
    ArePlain (layout language structures summary).shapes := by
  have htitle : (titleShape language).HasPlainColours := by
    have hcolour : '"' ∉ "#222".toList := by decide
    exact hcolour
  have hstructures := arePlain_stackFrom (shownEntries structures) firstTop
  exact .append (List.forall_mem_cons.mpr ⟨htitle, hstructures⟩) (arePlain_drawSummary _ _ summary)

theorem map_element_layout (language : Language) (structures : StructureSet) (summary : String) :
    (layout language structures summary).shapes.map Shape.element
      = "text" :: ((shownEntries structures).flatMap fun s => elementsOf s.kind s.sample.size)
        ++ "rect" :: List.replicate (Text.lines summary.toList).length "text" := by
  have hstructures := flatMap_stackFrom (List.map Shape.element)
    (fun s => elementsOf s.kind s.sample.size)
    (fun s x y => by rw [map_element_draw, Sample.length_shown]) (shownEntries structures) firstTop
  rw [layout, Layout.shapes, List.map_append, List.map_cons, List.map_flatMap, hstructures,
    map_element_drawSummary]
  rfl

theorem filterMap_caption?_layout (language : Language) (structures : StructureSet)
    (summary : String) :
    (layout language structures summary).shapes.filterMap Shape.caption?
      = titleText language
        :: ((shownEntries structures).flatMap fun s => captionsOf s.kind s.sample.shown)
        ++ (Text.lines summary.toList).map String.ofList := by
  have htitle : (titleShape language).caption? = some (titleText language) := rfl
  have hstructures := flatMap_stackFrom (List.filterMap Shape.caption?)
    (fun s => captionsOf s.kind s.sample.shown)
    (fun s x y => filterMap_caption?_draw s.kind x y s.sample.shown)
    (shownEntries structures) firstTop
  rw [layout, Layout.shapes, List.filterMap_append, List.filterMap_cons_some htitle,
    List.filterMap_flatMap, hstructures, filterMap_caption?_drawSummary]

/-- The pieces of a diagram stand for what they are, whatever the texts say. -/
theorem sound_pieces (language : Language) (structures : StructureSet) (summary : String) :
    ∀ piece ∈ arrowDefinition :: background
      :: (layout language structures summary).shapes.map (·.markup), piece.Sound := by
  have hpath : (Markup.leaf "path" [("d", "M 0 0 L 10 5 L 0 10 z"), ("fill", "#333")]).Sound :=
    .leaf (by decide) (by simp [AreQuoted])
  have harrow : arrowDefinition.Sound := by
    refine .node (by decide) (List.forall_mem_nil _) (List.forall_mem_singleton.mpr ?_)
    exact .node (by decide) (by simp [AreQuoted]) (List.forall_mem_singleton.mpr hpath)
  have hbackground : background.Sound := .leaf (by decide) (by simp [AreQuoted])
  refine List.forall_mem_cons.mpr ⟨harrow, List.forall_mem_cons.mpr ⟨hbackground, ?_⟩⟩
  intro piece hpiece
  obtain ⟨shape, hshape, rfl⟩ := List.mem_map.mp hpiece
  exact Shape.sound_markup (arePlain_layout language structures summary shape hshape)

theorem elementsOfAll_eq (structures : List SampledStructure) (lines : Nat) :
    elementsOfAll (structures.map fun s => (s.kind, s.sample.size)) lines
      = ["svg", "defs", "marker", "path", "rect"]
        ++ ("text" :: (structures.flatMap fun s => elementsOf s.kind s.sample.size)
          ++ "rect" :: List.replicate lines "text") := by
  rw [elementsOfAll, List.flatMap_map]
  rfl

/-- Neither the arrow nor the background has a text. -/
theorem texts_page (attributes : List (String × String)) (shapes : List Shape)
    (text : List Char) :
    textsIn "text".toList ((page "svg" attributes
        (arrowDefinition :: background :: shapes.map (·.markup))).before (text, [])).2
      = (shapes.filterMap Shape.caption?).map escape := by
  -- The tags in front of the shapes are known, so the definition passes over them.
  have hend : textsIn "text".toList [(.closing "svg".toList, text)] = [] := rfl
  have hshapes := texts_shapes shapes ([], [(.closing "svg".toList, text)])
  rw [hend, List.append_nil] at hshapes
  exact hshapes

/-- Every diagram has balanced tags.  Its elements are determined by the kinds
    of the structures, the number of values of each, and the number of lines of
    the summary; its texts, with the entities undone, are the title, the labels
    and the lines of the summary themselves. -/
theorem diagram_content (language : Language) (structures : StructureSet) (summary : String) :
    ∃ tags, tags? (diagram language structures summary).toList = some tags
      ∧ Balanced tags
      ∧ elements tags
        = (elementsOfAll ((shownEntries structures).map fun s => (s.kind, s.sample.size))
            (Text.lines summary.toList).length).map String.toList
      ∧ (textsIn "text".toList tags).map readEntities?
        = (captionsOfAll (titleText language) (shownEntries structures)
            (Text.lines summary.toList)).map some := by
  have hpieces := sound_pieces language structures summary
  have hpixels := quote_not_mem_pixels
  rw [diagram, Layout.text, tags?_document (by decide) (by simp [AreQuoted, hpixels]) hpieces]
  refine ⟨_, rfl, balanced_document _ _ _ _, ?_, ?_⟩
  · have hheader : ∀ elements : List String,
        (["svg", "defs", "marker", "path", "rect"] ++ elements).map String.toList
          = "svg".toList :: (arrowDefinition.names
            ++ (background.names ++ elements.map String.toList)) := fun _ => rfl
    rw [elements_document, namesAll, namesAll, namesAll_markup, map_element_layout,
      elementsOfAll_eq, hheader]
  · have hread : readEntities? ∘ escape = some ∘ String.toList :=
      funext fun content => readEntities?_escape content
    have hlines : String.toList ∘ String.ofList = id := funext fun line => String.toList_ofList
    rw [texts_page, filterMap_caption?_layout, List.map_map, hread, ← List.map_map,
      captionsOfAll, List.map_append, List.map_map, hlines, List.map_id]

end Diagram

end SnippetScope
