/-
  SnippetScope.Proofs.Pattern.Cuts

  How a search cuts a text into pieces, said as a relation with one rule for
  each piece.  The search follows it (`cuts_pieces`), and what holds of the
  matches found and of the text that is left over is proved by induction on
  its rules.
-/
import SnippetScope.Pattern.Search
import SnippetScope.Proofs.Pattern.Leads

namespace SnippetScope.Pattern

/-- From a place on, the text falls into the pieces: at each place a match that
    is not empty or, without one, a single character. -/
inductive Cuts (pattern : Pattern) : Place → List Piece → Prop where
  | done (prev : Option Char) : Cuts pattern ⟨prev, []⟩ []
  | found {p q : Place} {m : Match} {later : List Piece}
      (hmatch : matchAt? pattern p = some m) (hspan : p.Spans m.text q) (hne : m.text ≠ [])
      (hlater : Cuts pattern q later) :
      Cuts pattern p (.found m :: later)
  | kept {prev : Option Char} {c : Char} {rest : List Char} {later : List Piece}
      (hnone : ∀ m, matchAt? pattern ⟨prev, c :: rest⟩ = some m → m.text = [])
      (hlater : Cuts pattern ⟨some c, rest⟩ later) :
      Cuts pattern ⟨prev, c :: rest⟩ (.kept c :: later)

/-! ## The search cuts the text -/

/-- Passing over a stretch that belongs to a match leads to the place behind it. -/
theorem piecesFrom_of_spans {pattern : Pattern} {prev : Option Char} {text stretch : List Char}
    {q : Place} (h : (⟨prev, text⟩ : Place).Spans stretch q) :
    piecesFrom pattern stretch.length prev text = piecesFrom pattern 0 q.prev q.rest := by
  induction stretch generalizing prev text with
  | nil =>
      obtain rfl := h.stop_eq (.refl _)
      rfl
  | cons c stretch ih =>
      obtain rfl : text = c :: (stretch ++ q.rest) := h.rest_eq
      rw [List.length_cons, piecesFrom]
      exact ih h.of_cons.2

/-- What the search does at a place with a match that is not empty. -/
theorem piecesFrom_of_match {pattern : Pattern} {prev : Option Char} {c : Char}
    {rest : List Char} {m : Match} {q : Place}
    (hmatch : matchAt? pattern ⟨prev, c :: rest⟩ = some m) (hne : m.text ≠ [])
    (hspan : (⟨prev, c :: rest⟩ : Place).Spans m.text q) :
    piecesFrom pattern 0 prev (c :: rest) = .found m :: piecesFrom pattern 0 q.prev q.rest := by
  obtain ⟨covered, name⟩ := m
  cases covered with
  | nil => exact absurd rfl hne
  | cons d tail =>
      obtain ⟨rfl, htail⟩ := hspan.of_cons
      rw [piecesFrom, hmatch]
      simp only
      rw [piecesFrom_of_spans htail]

/-- What the search does at a place without one. -/
theorem piecesFrom_of_no_match {pattern : Pattern} {prev : Option Char} {c : Char}
    {rest : List Char}
    (hnone : ∀ m, matchAt? pattern ⟨prev, c :: rest⟩ = some m → m.text = []) :
    piecesFrom pattern 0 prev (c :: rest) = .kept c :: piecesFrom pattern 0 (some c) rest := by
  rw [piecesFrom]
  split
  · rename_i hmatch
    exact absurd (hnone _ hmatch) (by simp)
  · rfl

theorem cuts_piecesFrom (pattern : Pattern) (p : Place) :
    Cuts pattern p (piecesFrom pattern 0 p.prev p.rest) := by
  -- A match is passed over as a whole, so the induction is on what is left.
  generalize hn : p.rest.length = n
  induction n using Nat.strongRecOn generalizing p with
  | ind n ih =>
      subst hn
      obtain ⟨prev, text⟩ := p
      cases text with
      | nil =>
          rw [piecesFrom]
          exact .done prev
      | cons c rest =>
          by_cases hm : ∃ m, matchAt? pattern ⟨prev, c :: rest⟩ = some m ∧ m.text ≠ []
          · obtain ⟨m, hmatch, hne⟩ := hm
            obtain ⟨stop, -, hspan, -⟩ := exists_leads_of_matchAt hmatch
            have hlt : stop.place.rest.length < (c :: rest).length := by
              have hpos := List.length_pos_iff.mpr hne
              rw [show c :: rest = m.text ++ stop.place.rest from hspan.rest_eq,
                List.length_append]
              omega
            rw [piecesFrom_of_match hmatch hne hspan]
            exact .found hmatch hspan hne (ih _ hlt stop.place rfl)
          · have hnone : ∀ m, matchAt? pattern ⟨prev, c :: rest⟩ = some m → m.text = [] :=
              fun m hmatch => Classical.not_not.mp fun hne => hm ⟨m, hmatch, hne⟩
            rw [piecesFrom_of_no_match hnone]
            exact .kept hnone (ih rest.length (by simp) ⟨some c, rest⟩ rfl)

/-- The pieces of a search are a way to cut the text. -/
theorem cuts_pieces (pattern : Pattern) (text : List Char) :
    Cuts pattern ⟨none, text⟩ (pieces pattern text) := by
  rw [pieces_eq]
  exact cuts_piecesFrom pattern ⟨none, text⟩

/-! ## What the pieces are -/

namespace Cuts

variable {pattern : Pattern} {p : Place} {ps : List Piece}

/-- What is kept and what is found together are as long as the text. -/
theorem length_kept_add (h : Cuts pattern p ps) :
    (ps.filterMap Piece.kept?).length + ((ps.filterMap Piece.found?).flatMap (·.text)).length
      = p.rest.length := by
  induction h with
  | done prev => rfl
  | found _ hspan _ _ ih =>
      simp only [List.filterMap_cons, Piece.kept?, Piece.found?, List.flatMap_cons]
      rw [hspan.rest_eq, List.length_append, List.length_append, ← ih]
      omega
  | kept _ _ ih =>
      simp only [List.filterMap_cons, Piece.kept?, Piece.found?, List.length_cons]
      simp only at ih
      omega

/-- Characters are only left out. -/
theorem kept_sublist (h : Cuts pattern p ps) : (ps.filterMap Piece.kept?).Sublist p.rest := by
  induction h with
  | done prev => exact List.Sublist.refl _
  | found _ hspan _ _ ih =>
      simp only [List.filterMap_cons, Piece.kept?]
      rw [hspan.rest_eq]
      exact ih.trans (List.sublist_append_right _ _)
  | kept _ _ ih => exact ih.cons_cons _

/-- Each match found is one that is preferred at some place of the text. -/
theorem matchAt_of_mem_found (h : Cuts pattern p ps) {m : Match}
    (hm : m ∈ ps.filterMap Piece.found?) :
    ∃ stretch q, p.Spans stretch q ∧ matchAt? pattern q = some m ∧ m.text ≠ [] := by
  induction h with
  | done prev => simp at hm
  | @found p q m' _ hmatch hspan hne _ ih =>
      simp only [List.filterMap_cons, Piece.found?, List.mem_cons] at hm
      rcases hm with rfl | hm
      · exact ⟨[], p, .refl p, hmatch, hne⟩
      · obtain ⟨stretch, r, hr, hmr⟩ := ih hm
        exact ⟨m'.text ++ stretch, r, hspan.trans hr, hmr⟩
  | @kept prev c rest _ _ _ ih =>
      simp only [List.filterMap_cons, Piece.found?] at hm
      obtain ⟨stretch, r, hr, hmr⟩ := ih hm
      exact ⟨c :: stretch, r, (Place.Spans.single prev c rest).trans hr, hmr⟩

/-- Without a match found there is none to be had, not even from a place that
    the search would have passed over. -/
theorem no_match_of_found_eq_nil (h : Cuts pattern p ps) (hnil : ps.filterMap Piece.found? = [])
    {stretch : List Char} {q : Place} {m : Match} (hspan : p.Spans stretch q)
    (hq : q.rest ≠ []) (hm : matchAt? pattern q = some m) : m.text = [] := by
  induction h generalizing stretch with
  | done prev =>
      have := hspan.rest_eq
      simp_all
  | found _ _ _ _ _ => simp [Piece.found?] at hnil
  | @kept prev c rest _ hnone _ ih =>
      cases stretch with
      | nil =>
          obtain rfl := hspan.stop_eq (.refl _)
          exact hnone m hm
      | cons d stretch =>
          exact ih (by simpa [Piece.found?] using hnil) hspan.of_cons.2

end Cuts

/-! ## Removing all matches -/

theorem remove_sublist (pattern : Pattern) (text : List Char) :
    (remove pattern text).Sublist text :=
  (cuts_pieces pattern text).kept_sublist

theorem length_remove_add (pattern : Pattern) (text : List Char) :
    (remove pattern text).length + ((findAll pattern text).flatMap (·.text)).length
      = text.length :=
  (cuts_pieces pattern text).length_kept_add

/-- Removal leaves a text as it is exactly if nothing is found in it. -/
theorem remove_eq_self_iff {pattern : Pattern} {text : List Char} :
    remove pattern text = text ↔ findAll pattern text = [] := by
  have hlen := length_remove_add pattern text
  constructor
  · intro h
    rw [h] at hlen
    -- Nothing is gone, so the matches together are empty; but none of them is.
    have hzero : ((findAll pattern text).flatMap (·.text)).length = 0 := by omega
    have hnil := List.flatMap_eq_nil_iff.mp (List.length_eq_zero_iff.mp hzero)
    refine List.eq_nil_iff_forall_not_mem.mpr fun m hm => ?_
    obtain ⟨_, _, _, _, hne⟩ := (cuts_pieces pattern text).matchAt_of_mem_found hm
    exact hne (hnil m hm)
  · intro h
    rw [h] at hlen
    exact (remove_sublist pattern text).eq_of_length (by simpa using hlen)

/-- A match starts somewhere in the text or at its end. -/
theorem isIn_iff {pattern : Pattern} {text : List Char} :
    isIn pattern text = true ↔
      ∃ stretch q, (⟨none, text⟩ : Place).Spans stretch q
        ∧ (matchAt? pattern q).isSome = true := by
  -- The marks of a text are the values of a condition at its places.
  have hany : ∀ (condition : Place → Bool) (prev : Option Char) (rest : List Char),
      (marksOf condition prev rest).any id = true ↔
        ∃ stretch q, (⟨prev, rest⟩ : Place).Spans stretch q ∧ condition q = true := by
    intro condition prev rest
    induction rest generalizing prev with
    | nil =>
        constructor
        · intro h
          exact ⟨[], _, .refl _, by simpa [marksOf] using h⟩
        · rintro ⟨stretch, q, hspan, hq⟩
          obtain ⟨rfl, hrest⟩ := List.append_eq_nil_iff.mp hspan.rest_eq.symm
          obtain rfl := hspan.stop_eq (.refl _)
          simpa [marksOf] using hq
    | cons c rest ih =>
        simp only [marksOf, List.any_cons, id, Bool.or_eq_true, ih]
        constructor
        · rintro (h | ⟨stretch, q, hspan, hq⟩)
          · exact ⟨[], _, .refl _, h⟩
          · exact ⟨c :: stretch, q, (Place.Spans.single prev c rest).trans hspan, hq⟩
        · rintro ⟨stretch, q, hspan, hq⟩
          cases stretch with
          | nil =>
              obtain rfl := hspan.stop_eq (.refl _)
              exact .inl hq
          | cons d stretch =>
              exact .inr ⟨stretch, q, hspan.of_cons.2, hq⟩
  rw [isIn, starts_eq]
  exact hany _ none text

/-- For a pattern that never matches the empty text, to find nothing is to have
    no match anywhere. -/
theorem findAll_eq_nil_iff {pattern : Pattern} {text : List Char}
    (hne : ∀ p m, matchAt? pattern p = some m → m.text ≠ []) :
    findAll pattern text = [] ↔ isIn pattern text = false := by
  rw [← Bool.not_eq_true, isIn_iff]
  constructor
  · rintro hnil ⟨stretch, q, hspan, hq⟩
    obtain ⟨m, hm⟩ := Option.isSome_iff_exists.mp hq
    have hrest : q.rest ≠ [] := fun h => hne q m hm (by simpa [h] using text_prefix_of_matchAt hm)
    exact hne q m hm ((cuts_pieces pattern text).no_match_of_found_eq_nil hnil hspan hrest hm)
  · intro hno
    refine List.eq_nil_iff_forall_not_mem.mpr fun m hm => hno ?_
    obtain ⟨stretch, q, hspan, hmatch, -⟩ := (cuts_pieces pattern text).matchAt_of_mem_found hm
    exact ⟨stretch, q, hspan, by rw [hmatch]; rfl⟩

end SnippetScope.Pattern
