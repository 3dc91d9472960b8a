/-
  SnippetScope.Proofs.Diagram.Placement

  Where the shapes of a diagram lie.  Each drawing keeps to the room that it
  reports, but for the outer nodes of deep trees, which reach beyond it on both
  sides by half a unit at most (`holds_draw`).  The margin is wider than that,
  and the rooms follow each other with a gap in between (`stacked_stackFrom`),
  so all shapes lie on the canvas and those of different structures apart
  (`layout_inside`).
-/
import Mathlib.Algebra.Order.Field.Rat
import Mathlib.Data.List.Forall2
import Mathlib.Data.Rat.Cast.Order
import Mathlib.Tactic.Linarith
import Mathlib.Tactic.Positivity
import SnippetScope.Diagram
import SnippetScope.Proofs.Diagram.Drawings
import SnippetScope.Proofs.Diagram.TreePlaces
import SnippetScope.Proofs.Structure.Inserts

namespace SnippetScope.Diagram

/-! ## Regions -/

/-- A part of the plane. -/
structure Region where
  left : Rat
  right : Rat
  top : Rat
  bottom : Rat

namespace Region

/-- The point lies in the region. -/
def Has (r : Region) (x y : Rat) : Prop :=
  (r.left ≤ x ∧ x ≤ r.right) ∧ r.top ≤ y ∧ y ≤ r.bottom

/-- The shape lies in the region: opposite corners of what it covers, the ends of
    a line, or the point at which a text is anchored. -/
def Covers (r : Region) : Shape → Prop
  | .box x y width height _ => r.Has x y ∧ r.Has (x + width) (y + height)
  | .disc x y radius _ => r.Has (x - radius) (y - radius) ∧ r.Has (x + radius) (y + radius)
  | .link x1 y1 x2 y2 _ => r.Has x1 y1 ∧ r.Has x2 y2
  | .label x y _ _ => r.Has x y
  | .panel x y width height => r.Has x y ∧ r.Has (x + width) (y + height)
  | .note x y _ => r.Has x y

/-- The shapes lie in the region. -/
def Holds (r : Region) (shapes : List Shape) : Prop :=
  ∀ shape ∈ shapes, r.Covers shape

variable {r r' : Region} {shapes shapes' : List Shape} {shape : Shape}

@[simp] theorem holds_nil : r.Holds [] :=
  List.forall_mem_nil _

@[simp] theorem holds_cons : r.Holds (shape :: shapes) ↔ r.Covers shape ∧ r.Holds shapes :=
  List.forall_mem_cons

@[simp] theorem holds_append : r.Holds (shapes ++ shapes') ↔ r.Holds shapes ∧ r.Holds shapes' :=
  List.forall_mem_append

theorem holds_flatMap {α : Type} {items : List α} {f : α → List Shape} :
    r.Holds (items.flatMap f) ↔ ∀ item ∈ items, r.Holds (f item) :=
  List.forall_mem_flatMap

/-- The cells of values lie in a region if each does. -/
theorem holds_cells {values : List String} {cell : String → Nat → List Shape}
    (h : ∀ value i, i < values.length → (0 : Rat) ≤ i → (i : Rat) + 1 ≤ values.length →
      r.Holds (cell value i)) :
    r.Holds (values.zipIdx.flatMap fun (value, i) => cell value i) := by
  rw [holds_flatMap]
  intro (value, i) hmem
  have hi : i < values.length := (List.mem_zipIdx' hmem).1
  exact h value i hi (Nat.cast_nonneg i) (by exact_mod_cast hi)

/-- The region is part of the other one. -/
structure Within (r r' : Region) : Prop where
  left : r'.left ≤ r.left
  right : r.right ≤ r'.right
  top : r'.top ≤ r.top
  bottom : r.bottom ≤ r'.bottom

theorem Has.mono {x y : Rat} (h : r.Has x y) (hr : r.Within r') : r'.Has x y :=
  ⟨⟨hr.left.trans h.1.1, h.1.2.trans hr.right⟩, hr.top.trans h.2.1, h.2.2.trans hr.bottom⟩

theorem Holds.mono (h : r.Holds shapes) (hr : r.Within r') : r'.Holds shapes := by
  intro shape hshape
  have hcovers := h shape hshape
  cases shape with
  | box | disc | link | panel => exact ⟨hcovers.1.mono hr, hcovers.2.mono hr⟩
  | label | note => exact Has.mono hcovers hr

end Region

/-- How far shapes can reach beyond the room of a drawing on either side. -/
def overhang : Rat := 1 / 2

/-- The room of a drawing that starts at a corner, with what reaches beyond it. -/
def Drawing.room (d : Drawing) (x y : Rat) : Region :=
  ⟨x - overhang, x + d.width + overhang, y, y + d.height⟩

/-! ## Drawings -/

section Drawings

variable {x y : Rat} {values : List String}

theorem one_le_length (hvalues : values ≠ []) : (1 : Rat) ≤ values.length := by
  exact_mod_cast List.length_pos_iff.mpr hvalues

theorem holds_drawArray (hvalues : values ≠ []) :
    ((drawArray x y values).room x y).Holds (drawArray x y values).shapes := by
  have hn := one_le_length hvalues
  rw [drawArray, Drawing.room, Region.holds_cons]
  constructor
  · simp only [heading, Region.Covers, Region.Has, overhang]
    and_intros <;> linarith
  · refine Region.holds_cells fun value i _ hpos hi => ?_
    simp only [arrayCell, Region.holds_cons, Region.holds_nil, Region.Covers, Region.Has, overhang,
      and_true]
    and_intros <;> linarith

/-- The arrow of a node ends before the next node, that of the last one before
    the mark for the end. -/
theorem holds_drawLinkedList (hvalues : values ≠ []) :
    ((drawLinkedList x y values).room x y).Holds (drawLinkedList x y values).shapes := by
  have hn := one_le_length hvalues
  have hlast : ((values.length - 1 : Nat) : Rat) = values.length - 1 := by
    rw [Nat.cast_sub (List.length_pos_iff.mpr hvalues), Nat.cast_one]
  simp only [drawLinkedList, Drawing.room, hlast]
  rw [List.cons_append, Region.holds_cons, Region.holds_append]
  refine ⟨?_, Region.holds_cells fun value i hi hpos hle => ?_, ?_⟩
  · simp only [heading, Region.Covers, Region.Has, overhang]
    and_intros <;> linarith
  · simp only [listNode, Region.holds_cons, Region.holds_nil, Region.Covers, Region.Has, overhang,
      and_true]
    split
    · rename_i hnext
      -- There is a next node, so one more spacing lies before the last one.
      have hnext : (i : Rat) + 2 ≤ values.length := by exact_mod_cast hnext
      and_intros <;> linarith
    · and_intros <;> linarith
  · simp only [Region.holds_cons, Region.holds_nil, Region.Covers, Region.Has, overhang, and_true]
    and_intros <;> linarith

theorem holds_drawStack (hvalues : values ≠ []) :
    ((drawStack x y values).room x y).Holds (drawStack x y values).shapes := by
  have hn := one_le_length hvalues
  rw [drawStack, Drawing.room, List.cons_append, Region.holds_cons, Region.holds_append]
  refine ⟨?_, Region.holds_cells fun value i hi hpos hle => ?_, ?_⟩
  · simp only [heading, Region.Covers, Region.Has, overhang]
    and_intros <;> linarith
  · -- Later values lie higher, so the first one is the lowest.
    have habove : ((values.length - 1 - i : Nat) : Rat) = values.length - 1 - i := by
      rw [Nat.sub_sub, Nat.cast_sub (by omega), Nat.cast_add, Nat.cast_one, sub_sub]
    simp only [stackCell, habove, Region.holds_cons, Region.holds_nil, Region.Covers, Region.Has,
      overhang, and_true]
    and_intros <;> linarith
  · simp only [Region.holds_cons, Region.holds_nil, Region.Covers, Region.Has, overhang, and_true]
    and_intros <;> linarith

theorem holds_drawQueue (hvalues : values ≠ []) :
    ((drawQueue x y values).room x y).Holds (drawQueue x y values).shapes := by
  have hn := one_le_length hvalues
  rw [drawQueue, Drawing.room, List.cons_append, Region.holds_cons, Region.holds_append]
  refine ⟨?_, Region.holds_cells fun value i _ hpos hi => ?_, ?_⟩
  · simp only [heading, Region.Covers, Region.Has, overhang]
    and_intros <;> linarith
  · simp only [queueCell, Region.holds_cons, Region.holds_nil, Region.Covers, Region.Has, overhang,
      and_true]
    and_intros <;> linarith
  · simp only [Region.holds_cons, Region.holds_nil, Region.Covers, Region.Has, overhang, and_true]
    and_intros <;> linarith

theorem holds_drawHashTable (x y : Rat) (values : List String) :
    ((drawHashTable x y values).room x y).Holds (drawHashTable x y values).shapes := by
  have hn : (0 : Rat) ≤ values.length := Nat.cast_nonneg _
  rw [drawHashTable, Drawing.room, Region.holds_cons]
  refine ⟨?_, Region.holds_cells fun entry i _ hpos hi => ?_⟩
  · simp only [heading, Region.Covers, Region.Has, overhang]
    and_intros <;> linarith
  · simp only [bucket, Region.holds_cons, Region.holds_nil, Region.Covers, Region.Has, overhang,
      and_true]
    and_intros <;> linarith

/-! ### Trees -/

/-- The levels of the values are those that the tree counts. -/
theorem treePlace_level {i n : Nat} (h : i < n) :
    0 ≤ (treePlace i).2 ∧ (treePlace i).2 + 2 ≤ treeLevels n * 2 := by
  have hlevel : treeLevel i + 1 ≤ treeLevels n := by
    rw [treeLevels, if_neg (by omega)]
    exact Nat.succ_le_succ (treeLevel_mono (by omega))
  have hcast : (treeLevel i : Rat) + 1 ≤ treeLevels n := by exact_mod_cast hlevel
  have hpos : (0 : Rat) ≤ treeLevel i := Nat.cast_nonneg _
  have hheight : (treePlace i).2 = treeLevel i * 2 := rfl
  rw [hheight]
  constructor <;> linarith

/-- Nodes at the sides reach beyond the width of the tree, lines do not. -/
theorem holds_drawTree (hvalues : values ≠ []) :
    ((drawTree x y values).room x y).Holds (drawTree x y values).shapes := by
  have hpos := List.length_pos_iff.mpr hvalues
  rw [drawTree, Drawing.room, List.cons_append, Region.holds_cons, Region.holds_append,
    Region.holds_flatMap]
  refine ⟨?_, fun i hi => ?_, Region.holds_cells fun value i hi _ _ => ?_⟩
  · have hlevels := treePlace_level hpos
    simp only [heading, Region.Covers, Region.Has, overhang, treeWidth]
    and_intros <;> linarith
  · -- A line ends at its child, which is a value like its parent.
    have hi := List.mem_range.mp hi
    intro shape hshape
    obtain ⟨child, hchild, rfl⟩ := List.mem_map.mp hshape
    have hchild : child < values.length := by simpa using List.of_mem_filter hchild
    have hparent := treePlace_inside i
    have hplace := treePlace_inside child
    have hlevel := treePlace_level hi
    have hbelow := treePlace_level hchild
    simp only [treeLink, Region.Covers, Region.Has, overhang]
    and_intros <;> linarith
  · -- The centre is within the width, so a node reaches beyond it by its radius.
    have hplace := treePlace_inside i
    have hlevel := treePlace_level hi
    simp only [treeNode, Region.holds_cons, Region.holds_nil, Region.Covers, Region.Has, overhang,
      and_true]
    and_intros <;> linarith

/-! ### All kinds and the summary -/

/-- The shapes of a structure lie in its room, or reach beyond it on the sides a
    little. -/
theorem holds_draw (kind : StructureKind) (hvalues : values ≠ []) :
    ((draw kind x y values).room x y).Holds (draw kind x y values).shapes := by
  cases kind with
  | array => exact holds_drawArray hvalues
  | linkedList => exact holds_drawLinkedList hvalues
  | stack => exact holds_drawStack hvalues
  | queue => exact holds_drawQueue hvalues
  | binaryTree => exact holds_drawTree hvalues
  | hashTable => exact holds_drawHashTable x y values

theorem height_draw_nonneg (kind : StructureKind) (x y : Rat) (values : List String) :
    0 ≤ (draw kind x y values).height := by
  cases kind <;> simp only [draw, drawArray, drawLinkedList, drawStack, drawQueue, drawTree,
    drawHashTable] <;> positivity

theorem holds_drawSummary (x y : Rat) (summary : String) :
    ((drawSummary x y summary).room x y).Holds (drawSummary x y summary).shapes := by
  have hlongest : (0 : Rat) ≤ longest (Text.lines summary.toList) := Nat.cast_nonneg _
  have hlines : (0 : Rat) ≤ (Text.lines summary.toList).length := Nat.cast_nonneg _
  simp only [drawSummary, Drawing.room]
  rw [Region.holds_cons]
  constructor
  · simp only [Region.Covers, Region.Has, overhang]
    and_intros <;> linarith
  · intro shape hshape
    obtain ⟨⟨line, i⟩, hmem, rfl⟩ := List.mem_map.mp hshape
    have hpos : (0 : Rat) ≤ i := Nat.cast_nonneg i
    have hi : (i : Rat) + 1 ≤ (Text.lines summary.toList).length := by
      exact_mod_cast (List.mem_zipIdx' hmem).1
    simp only [summaryNote, Region.Covers, Region.Has, overhang]
    and_intros <;> linarith

theorem drawSummary_nonneg (x y : Rat) (summary : String) :
    0 ≤ (drawSummary x y summary).width ∧ 0 ≤ (drawSummary x y summary).height := by
  simp only [drawSummary]
  constructor <;> positivity

end Drawings

/-! ## Drawings one below the other -/

theorem le_wider_left (a b : Rat) : a ≤ wider a b := by
  rw [wider]
  split
  · rename_i h
    exact h.le
  · exact le_refl a

theorem le_wider_right (a b : Rat) : b ≤ wider a b := by
  rw [wider]
  split
  · exact le_refl b
  · rename_i h
    exact not_lt.mp h

theorem le_foldl_wider (start : Rat) (lengths : List Rat) :
    start ≤ lengths.foldl wider start ∧ ∀ a ∈ lengths, a ≤ lengths.foldl wider start := by
  induction lengths generalizing start with
  | nil => exact ⟨le_refl start, List.forall_mem_nil _⟩
  | cons a rest ih =>
      obtain ⟨hstart, hrest⟩ := ih (wider start a)
      exact ⟨(le_wider_left start a).trans hstart,
        List.forall_mem_cons.mpr ⟨(le_wider_right start a).trans hstart, hrest⟩⟩

/-- Placed drawings between a start and the place of the next one, in their
    order and with a gap behind each. -/
structure Stacked (top : Rat) (placed : List Placed) (next : Rat) : Prop where
  le_next : top ≤ next
  between : ∀ p ∈ placed, top ≤ p.top ∧ p.bottom + gap ≤ next
  ordered : placed.Pairwise fun p q => p.bottom + gap ≤ q.top

theorem gap_pos : 0 < gap := by
  rw [gap]
  positivity

theorem stacked_stackFrom (top : Rat) (entries : List SampledStructure) :
    Stacked top (stackFrom top entries).1 (stackFrom top entries).2 := by
  -- By induction on the entries: the first one is placed at the start, the
  -- others from where it ends with its gap.
  induction entries generalizing top with
  | nil => exact ⟨le_refl top, List.forall_mem_nil _, .nil⟩
  | cons e rest ih =>
      have hheight := height_draw_nonneg e.kind margin top e.sample.shown
      have hgap := gap_pos
      obtain ⟨hnext, hbetween, hordered⟩ :=
        ih (top + (draw e.kind margin top e.sample.shown).height + gap)
      refine ⟨le_trans (by linarith) hnext, ?_, ?_⟩
      · refine List.forall_mem_cons.mpr ⟨⟨le_refl top, hnext⟩, fun p hp => ?_⟩
        obtain ⟨htop, hbottom⟩ := hbetween p hp
        exact ⟨le_trans (by linarith) htop, hbottom⟩
      · exact List.pairwise_cons.mpr ⟨fun p hp => (hbetween p hp).1, hordered⟩

/-- Each structure is drawn where it is placed. -/
theorem drawn_stackFrom (top : Rat) (entries : List SampledStructure) :
    List.Forall₂ (fun e p => p.drawing = draw e.kind margin p.top e.sample.shown) entries
      (stackFrom top entries).1 := by
  induction entries generalizing top with
  | nil => exact .nil
  | cons e rest ih => exact .cons rfl (ih _)

/-! ## Layouts -/

/-- The room of a placed drawing, with what reaches beyond it. -/
def Placed.room (p : Placed) : Region :=
  p.drawing.room margin p.top

/-- The canvas of a layout. -/
def Layout.canvas (l : Layout) : Region :=
  ⟨0, l.width, 0, l.height⟩

/-- The drawings of a layout from top to bottom: the structures, and the summary
    below them. -/
def Layout.placed (l : Layout) : List Placed :=
  l.structures ++ [l.summary]

section Layouts

variable (language : Language) (structures : StructureSet) (summary : String)

theorem stacked_structures :
    Stacked firstTop (layout language structures summary).structures
      (layout language structures summary).summary.top :=
  stacked_stackFrom firstTop (shownEntries structures)

theorem ordered_placed :
    (layout language structures summary).placed.Pairwise fun p q => p.bottom + gap ≤ q.top := by
  have hstacked := stacked_structures language structures summary
  refine List.pairwise_append.mpr ⟨hstacked.ordered, List.pairwise_singleton _ _, fun p hp q hq => ?_⟩
  rw [List.mem_singleton.mp hq]
  exact (hstacked.between p hp).2

theorem width_layout :
    (layout language structures summary).width
      = wider (wider
            (((layout language structures summary).structures.map (·.drawing.width)).foldl wider 0)
            (layout language structures summary).summary.drawing.width)
          ((titleText language).length * (3 / 10))
        + 2 * margin :=
  rfl

theorem width_placed {p : Placed} (hp : p ∈ (layout language structures summary).placed) :
    p.drawing.width + 2 * margin ≤ (layout language structures summary).width := by
  rw [width_layout]
  generalize layout language structures summary = l at hp ⊢
  have hwidest : p.drawing.width
      ≤ wider ((l.structures.map (·.drawing.width)).foldl wider 0) l.summary.drawing.width := by
    rcases List.mem_append.mp hp with h | h
    · have hmem : p.drawing.width ∈ l.structures.map (·.drawing.width) :=
        List.mem_map.mpr ⟨p, h, rfl⟩
      exact ((le_foldl_wider 0 _).2 _ hmem).trans (le_wider_left _ _)
    · rw [List.mem_singleton.mp h]
      exact le_wider_right _ _
  have htitle := hwidest.trans (le_wider_left _ ((titleText language).length * (3 / 10)))
  linarith

theorem height_placed {p : Placed} (hp : p ∈ (layout language structures summary).placed) :
    0 ≤ p.top ∧ p.bottom + margin ≤ (layout language structures summary).height := by
  have hstacked := stacked_structures language structures summary
  have hgap := gap_pos
  have hfirst : 0 ≤ firstTop := by
    rw [firstTop]
    positivity
  have hheight : (layout language structures summary).height
      = (layout language structures summary).summary.bottom + margin := rfl
  rw [hheight]
  rcases List.mem_append.mp hp with h | h
  · obtain ⟨htop, hbottom⟩ := hstacked.between p h
    have hsummary : (layout language structures summary).summary.top
        ≤ (layout language structures summary).summary.bottom :=
      le_add_of_nonneg_right (drawSummary_nonneg _ _ _).2
    constructor <;> linarith
  · rw [List.mem_singleton.mp h]
    exact ⟨hfirst.trans hstacked.le_next, le_refl _⟩

/-- The margin leaves enough space for what reaches beyond a room. -/
theorem room_within_canvas {p : Placed} (hp : p ∈ (layout language structures summary).placed) :
    p.room.Within (layout language structures summary).canvas := by
  have hwidth := width_placed language structures summary hp
  obtain ⟨htop, hbottom⟩ := height_placed language structures summary hp
  rw [Placed.bottom] at hbottom
  rw [margin] at hwidth hbottom
  refine ⟨?_, ?_, htop, ?_⟩ <;>
    simp only [Placed.room, Drawing.room, Layout.canvas, margin, overhang] <;> linarith

variable {structures} in
theorem size_of_mem_shownEntries (h : ∀ e ∈ structures.entries, e.sample.size ≠ 0)
    {e : SampledStructure} (he : e ∈ shownEntries structures) : e.sample.size ≠ 0 := by
  rw [shownEntries] at he
  split at he
  · rw [List.mem_singleton.mp he]
    decide
  · exact h e he

variable {structures} in
theorem holds_room (h : ∀ e ∈ structures.entries, e.sample.size ≠ 0) {p : Placed}
    (hp : p ∈ (layout language structures summary).placed) : p.room.Holds p.drawing.shapes := by
  rcases List.mem_append.mp hp with hp | hp
  · -- The drawing is that of an entry in the same position.
    obtain ⟨hlength, hdrawn⟩ :=
      List.forall₂_iff_zip.mp (drawn_stackFrom firstTop (shownEntries structures))
    have hpair : p ∈ ((shownEntries structures).zip
        (stackFrom firstTop (shownEntries structures)).1).map Prod.snd := by
      rw [List.map_snd_zip hlength.ge]
      exact hp
    obtain ⟨⟨e, _⟩, hmem, rfl⟩ := List.mem_map.mp hpair
    have hsize := size_of_mem_shownEntries h (List.of_mem_zip hmem).1
    have hshown : e.sample.shown ≠ [] := by
      rwa [← List.length_pos_iff, Sample.length_shown, Nat.pos_iff_ne_zero]
    rw [Placed.room, hdrawn hmem]
    exact holds_draw e.kind hshown
  · rw [List.mem_singleton.mp hp]
    exact holds_drawSummary _ _ _

theorem canvas_covers_title :
    (layout language structures summary).canvas.Covers
      (layout language structures summary).title := by
  have hsummary : (layout language structures summary).summary
      ∈ (layout language structures summary).placed :=
    List.mem_append_right _ List.mem_cons_self
  have hwidth := width_placed language structures summary hsummary
  obtain ⟨-, hheight⟩ := height_placed language structures summary hsummary
  have hnext := (stacked_structures language structures summary).le_next
  obtain ⟨hbox, hbelow⟩ := drawSummary_nonneg margin
    (layout language structures summary).summary.top summary
  have hdrawing : (layout language structures summary).summary.drawing
      = drawSummary margin (layout language structures summary).summary.top summary := rfl
  rw [Placed.bottom, hdrawing, margin] at hheight
  rw [hdrawing, margin] at hwidth
  rw [firstTop] at hnext
  have htitle : (layout language structures summary).title = titleShape language := rfl
  rw [htitle]
  simp only [titleShape, Layout.canvas, Region.Covers, Region.Has, margin]
  rw [margin] at hbox hbelow
  and_intros <;> linarith

end Layouts

/-- The shapes of a diagram lie on its canvas.  Those of each structure and of
    the summary keep to rooms of their own, which follow each other from top to
    bottom: first the structures in the order in which their kinds came in, then
    the summary. -/
theorem layout_inside (language : Language) (inserts : List SampledStructure) (summary : String) :
    let structures := StructureSet.insertAll inserts
    let l := layout language structures summary
    l.canvas.Holds l.shapes
      ∧ (∀ p ∈ l.placed, p.room.Holds p.drawing.shapes)
      ∧ l.placed.Pairwise (fun p q => p.bottom < q.top)
      ∧ List.Forall₂ (fun e p => p.drawing = draw e.kind margin p.top e.sample.shown)
          (shownEntries structures) l.structures
      ∧ l.summary.drawing = drawSummary margin l.summary.top summary
      ∧ (structures.isEmpty = false → shownEntries structures = structures.entries)
      ∧ structures.kinds.Pairwise fun a b =>
          StructureSet.firstPlace a inserts < StructureSet.firstPlace b inserts := by
  intro structures l
  have houtcome := StructureSet.OutcomeOf.insertAll inserts
  have hrooms : ∀ p ∈ l.placed, p.room.Holds p.drawing.shapes :=
    fun p hp => holds_room language summary houtcome.nonEmpty hp
  have hshapes : l.shapes = l.title :: l.placed.flatMap (·.drawing.shapes) := by
    rw [Layout.shapes, Layout.placed, List.flatMap_append, List.flatMap_singleton, List.cons_append]
  refine ⟨?_, hrooms, ?_, drawn_stackFrom firstTop _, rfl, fun hsome => ?_, houtcome.ordered⟩
  · rw [hshapes, Region.holds_cons, Region.holds_flatMap]
    exact ⟨canvas_covers_title language structures summary, fun p hp =>
      (hrooms p hp).mono (room_within_canvas language structures summary hp)⟩
  · refine (ordered_placed language structures summary).imp fun {p q} hgap => ?_
    have hpos := gap_pos
    linarith
  · rw [shownEntries, hsome]
    rfl

end SnippetScope.Diagram
