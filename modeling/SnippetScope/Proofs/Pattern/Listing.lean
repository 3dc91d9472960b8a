/-
  SnippetScope.Proofs.Pattern.Listing

  What a search lists.  Something that stands at certain places of a text is
  described from each place on; if the search meets it at its matches and passes
  over nothing of it elsewhere, then the names it finds are all that stands in the
  text, in the order of the places (`Cuts.exists_lists`).  Whatever the pattern, the
  matches themselves stand in the text one behind the other (`exists_standApart`).
-/
import SnippetScope.Proofs.Pattern.Cuts

namespace SnippetScope.Pattern

/-! ## Lists in the order of places -/

section

variable {α : Type}

/-- The list holds all that stands in a text, each with its place, from left to
    right. -/
structure Lists (stands : Nat → α → Prop) (listed : List (Nat × α)) : Prop where
  ordered : listed.Pairwise fun a b => a.1 < b.1
  mem_iff : ∀ place x, (place, x) ∈ listed ↔ stands place x

/-- What is listed behind a stretch, with the places that it has in the whole. -/
def shifted (n : Nat) (listed : List (Nat × α)) : List (Nat × α) :=
  listed.map fun entry => (n + entry.1, entry.2)

theorem map_snd_shifted (n : Nat) (listed : List (Nat × α)) :
    (shifted n listed).map Prod.snd = listed.map Prod.snd := by
  rw [shifted, List.map_map]
  rfl

theorem mem_shifted_iff {n place : Nat} {x : α} {listed : List (Nat × α)} :
    (place, x) ∈ shifted n listed ↔ ∃ k, place = n + k ∧ (k, x) ∈ listed := by
  simp only [shifted, List.mem_map, Prod.mk.injEq, Prod.exists]
  constructor
  · rintro ⟨k, _, hmem, hplace, rfl⟩
    exact ⟨k, hplace.symm, hmem⟩
  · rintro ⟨k, hplace, hmem⟩
    exact ⟨k, x, hmem, hplace.symm, rfl⟩

theorem pairwise_shifted {n : Nat} {listed : List (Nat × α)}
    (h : listed.Pairwise fun a b => a.1 < b.1) :
    (shifted n listed).Pairwise fun a b => a.1 < b.1 := by
  rw [shifted, List.pairwise_map]
  exact h.imp fun hlt => Nat.add_lt_add_left hlt n

namespace Lists

variable {stands later : Nat → α → Prop} {listed : List (Nat × α)} {n : Nat}

theorem nil (hnone : ∀ place x, ¬ stands place x) : Lists stands [] where
  ordered := .nil
  mem_iff place x := iff_of_false List.not_mem_nil (hnone place x)

/-- A stretch with nothing in it moves all that stands behind it. -/
theorem shift (h : Lists later listed)
    (hiff : ∀ place x, stands place x ↔ ∃ k, place = n + k ∧ later k x) :
    Lists stands (shifted n listed) where
  ordered := pairwise_shifted h.ordered
  mem_iff place x := by
    rw [mem_shifted_iff, hiff]
    simp only [h.mem_iff]

/-- A stretch with one thing in it puts that in front. -/
theorem first (h : Lists later listed) {place₀ : Nat} {x₀ : α} (hplace : place₀ < n)
    (hiff : ∀ place x, stands place x
      ↔ (place = place₀ ∧ x = x₀) ∨ ∃ k, place = n + k ∧ later k x) :
    Lists stands ((place₀, x₀) :: shifted n listed) where
  ordered := by
    refine List.pairwise_cons.mpr ⟨?_, pairwise_shifted h.ordered⟩
    rintro ⟨place, x⟩ hmem
    obtain ⟨k, hk, -⟩ := mem_shifted_iff.mp hmem
    show place₀ < place
    omega
  mem_iff place x := by
    rw [List.mem_cons, mem_shifted_iff, hiff, Prod.mk.injEq]
    simp only [h.mem_iff]

end Lists

end

/-! ## What a search meets -/

/-- From each good place on, the search meets what stands there: a match has one
    thing in it and gives its name, and a character that is passed over nothing. -/
structure Meets (pattern : Pattern) (good : Place → Prop)
    (stands : Place → Nat → List Char → Prop) : Prop where
  done : ∀ prev place x, ¬ stands ⟨prev, []⟩ place x
  kept : ∀ prev c rest, good ⟨prev, c :: rest⟩ →
    (∀ m, matchAt? pattern ⟨prev, c :: rest⟩ = some m → m.text = []) →
    good ⟨some c, rest⟩ ∧ ∀ place x, stands ⟨prev, c :: rest⟩ place x
      ↔ ∃ k, place = 1 + k ∧ stands ⟨some c, rest⟩ k x
  found : ∀ p q m, good p → matchAt? pattern p = some m → p.Spans m.text q →
    good q ∧ ∃ place₀ x₀, place₀ < m.text.length ∧ m.name = some x₀
      ∧ ∀ place x, stands p place x ↔ (place = place₀ ∧ x = x₀)
        ∨ ∃ k, place = m.text.length + k ∧ stands q k x

theorem Cuts.exists_lists {pattern : Pattern} {good : Place → Prop}
    {stands : Place → Nat → List Char → Prop} (hmeets : Meets pattern good stands) {p : Place}
    {pieces : List Piece} (h : Cuts pattern p pieces) (hgood : good p) :
    ∃ listed, Lists (stands p) listed
      ∧ (pieces.filterMap Piece.found?).filterMap (·.name) = listed.map Prod.snd := by
  -- Along the pieces, each place that the search comes to is a good one.
  induction h with
  | done prev => exact ⟨[], .nil (hmeets.done prev), rfl⟩
  | @found p q m later hmatch hspan _ _ ih =>
      obtain ⟨hq, place₀, x₀, hplace, hname, hiff⟩ := hmeets.found p q m hgood hmatch hspan
      obtain ⟨listed, hlists, hnames⟩ := ih hq
      refine ⟨_, hlists.first hplace hiff, ?_⟩
      rw [List.map_cons, map_snd_shifted, ← hnames]
      simp only [List.filterMap_cons, Piece.found?, hname]
  | @kept prev c rest later hnone _ ih =>
      obtain ⟨hrest, hiff⟩ := hmeets.kept prev c rest hgood hnone
      obtain ⟨listed, hlists, hnames⟩ := ih hrest
      refine ⟨_, hlists.shift hiff, ?_⟩
      rw [map_snd_shifted, ← hnames]
      rfl

/-! ## Where the matches stand -/

/-- The parts stand in a text, each at its place, from left to right and without
    overlap. -/
structure StandApart (text : List Char) (placed : List (Nat × List Char)) : Prop where
  ne_nil : ∀ entry ∈ placed, entry.2 ≠ []
  stands : ∀ entry ∈ placed, entry.2 <+: text.drop entry.1
  apart : placed.Pairwise fun a b => a.1 + a.2.length ≤ b.1

namespace StandApart

variable {text : List Char} {placed : List (Nat × List Char)}

theorem nil (text : List Char) : StandApart text [] :=
  ⟨List.forall_mem_nil _, List.forall_mem_nil _, .nil⟩

/-- A stretch in front of a text moves all its parts. -/
theorem shift (h : StandApart text placed) (stretch : List Char) :
    StandApart (stretch ++ text) (shifted stretch.length placed) where
  ne_nil := by
    rintro ⟨place, part⟩ hmem
    obtain ⟨k, -, hk⟩ := mem_shifted_iff.mp hmem
    exact h.ne_nil (k, part) hk
  stands := by
    rintro ⟨place, part⟩ hmem
    obtain ⟨k, rfl, hk⟩ := mem_shifted_iff.mp hmem
    show part <+: (stretch ++ text).drop (stretch.length + k)
    rw [List.drop_length_add_append]
    exact h.stands (k, part) hk
  apart := by
    rw [shifted, List.pairwise_map]
    refine h.apart.imp ?_
    intro a b hab
    show stretch.length + a.1 + a.2.length ≤ stretch.length + b.1
    omega

/-- A part in front of a text stands at its start. -/
theorem cons (h : StandApart text placed) {part : List Char} (hne : part ≠ []) :
    StandApart (part ++ text) ((0, part) :: shifted part.length placed) where
  ne_nil := List.forall_mem_cons.mpr ⟨hne, (h.shift part).ne_nil⟩
  stands := List.forall_mem_cons.mpr ⟨List.prefix_append part text, (h.shift part).stands⟩
  apart := by
    refine List.pairwise_cons.mpr ⟨?_, (h.shift part).apart⟩
    rintro ⟨place, later⟩ hmem
    obtain ⟨k, rfl, -⟩ := mem_shifted_iff.mp hmem
    show 0 + part.length ≤ part.length + k
    omega

end StandApart

theorem Cuts.exists_standApart {pattern : Pattern} {p : Place} {pieces : List Piece}
    (h : Cuts pattern p pieces) :
    ∃ placed, StandApart p.rest placed
      ∧ (pieces.filterMap Piece.found?).map (·.text) = placed.map Prod.snd := by
  induction h with
  | done prev => exact ⟨[], .nil [], rfl⟩
  | @found p q m later _ hspan hne _ ih =>
      obtain ⟨placed, hstand, htexts⟩ := ih
      rw [hspan.rest_eq]
      refine ⟨_, hstand.cons hne, ?_⟩
      rw [List.map_cons, map_snd_shifted, ← htexts]
      rfl
  | @kept prev c rest later _ _ ih =>
      obtain ⟨placed, hstand, htexts⟩ := ih
      refine ⟨_, hstand.shift [c], ?_⟩
      rw [map_snd_shifted, ← htexts]
      rfl

/-- The matches of a search stand apart. -/
theorem exists_standApart (pattern : Pattern) (text : List Char) :
    ∃ placed, StandApart text placed
      ∧ (findAll pattern text).map (·.text) = placed.map Prod.snd :=
  (cuts_pieces pattern text).exists_standApart

end SnippetScope.Pattern
