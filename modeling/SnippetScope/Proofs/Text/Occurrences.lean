/-
  SnippetScope.Proofs.Text.Occurrences

  Counting the occurrences of a word.  The count leaves out occurrences that
  overlap an earlier one; a word that cannot overlap itself has none of these,
  so that the count is the number of places where the word stands
  (`count_eq_countP`).  Two texts side by side hold at least the occurrences of
  both (`count_add_count_le`).
-/
import SnippetScope.Text.Search
import Mathlib.Data.List.Infix

namespace SnippetScope.Text

theorem occurs_iff {word text : List Char} : occurs word text = true ↔ word <:+: text := by
  induction text with
  | nil => simp [occurs]
  | cons c rest ih =>
      rw [occurs, Bool.or_eq_true, List.isPrefixOf_iff_prefix, ih, List.infix_cons_iff]

/-- The word stands at the place of the text. -/
def standsAt (word text : List Char) (place : Nat) : Bool :=
  word.isPrefixOf (text.drop place)

theorem standsAt_iff {word text : List Char} {place : Nat} :
    standsAt word text place = true ↔ word <+: text.drop place :=
  List.isPrefixOf_iff_prefix

/-- A word without the separator ends before it. -/
theorem prefix_of_prefix_append_cons {word before behind : List Char} {sep : Char}
    (h : sep ∉ word) (hstarts : word <+: before ++ sep :: behind) : word <+: before := by
  induction before generalizing word with
  | nil =>
      rcases List.prefix_cons_iff.mp hstarts with rfl | ⟨rest, rfl, -⟩
      · exact List.nil_prefix
      · exact absurd List.mem_cons_self h
  | cons d before ih =>
      rcases List.prefix_cons_iff.mp hstarts with rfl | ⟨rest, rfl, hrest⟩
      · exact List.nil_prefix
      · rw [List.cons_prefix_cons, and_iff_right rfl]
        exact ih (fun hmem => h (List.mem_cons_of_mem d hmem)) hrest

theorem standsAt_singleton_iff {c : Char} {text : List Char} {place : Nat} :
    standsAt [c] text place = true ↔ text[place]? = some c := by
  rw [standsAt_iff, ← List.head?_drop]
  cases text.drop place with
  | nil => simp
  | cons d rest =>
      rw [List.cons_prefix_cons, List.head?_cons, Option.some.injEq, eq_comm]
      exact and_iff_left List.nil_prefix

/-- A character that a text has once has one place there. -/
theorem eq_length_of_standsAt_singleton {c : Char} {before after rest : List Char}
    (hbefore : c ∉ before) (hafter : c ∉ after) {place : Nat}
    (hlt : place < (before ++ c :: after).length)
    (h : standsAt [c] ((before ++ c :: after) ++ rest) place = true) : place = before.length := by
  rw [standsAt_singleton_iff, List.getElem?_append_left hlt] at h
  rcases Nat.lt_trichotomy place before.length with hless | heq | hmore
  · rw [List.getElem?_append_left hless] at h
    exact absurd (List.mem_of_getElem? h) hbefore
  · exact heq
  · obtain ⟨k, rfl⟩ := Nat.exists_eq_add_of_lt hmore
    have hbehind : before.length + k + 1 - before.length = k + 1 := by omega
    rw [List.getElem?_append_right (by omega), hbehind, List.getElem?_cons_succ] at h
    exact absurd (List.mem_of_getElem? h) hafter

/-- No two occurrences of the word overlap: no later part of it is what it
    starts with. -/
def Unbordered (word : List Char) : Prop :=
  ∀ place < word.length, 0 < place → ¬ word.drop place <+: word

instance (word : List Char) : Decidable (Unbordered word) :=
  Nat.decidableBallLT _ _

/-- Below an occurrence there is no room for a second one. -/
theorem Unbordered.not_standsAt {word text : List Char} (h : Unbordered word)
    (hword : word <+: text) {place : Nat} (hpos : 0 < place) (hplace : place < word.length) :
    ¬ word <+: text.drop place := by
  obtain ⟨rest, rfl⟩ := hword
  intro hsecond
  have hdrop : (word ++ rest).drop place = word.drop place ++ rest :=
    List.drop_append_of_le_length hplace.le
  rw [hdrop] at hsecond
  have hshorter : (word.drop place).length ≤ word.length := by
    rw [List.length_drop]
    omega
  exact h place hplace hpos
    (List.prefix_of_prefix_length_le (List.prefix_append _ rest) hsecond hshorter)

/-- The places after the first character of a text are those of the rest. -/
theorem countP_range_cons (p : Nat → Bool) (c : Char) (rest : List Char) :
    (List.range (c :: rest).length).countP p
      = (if p 0 then 1 else 0) + (List.range rest.length).countP fun place => p (place + 1) := by
  rw [List.length_cons, List.range_succ_eq_map, List.countP_cons, List.countP_map, Nat.add_comm]
  rfl

/-- With `skip` characters left of an earlier occurrence, the places behind
    them are counted. -/
theorem countFrom_eq_countP {word : List Char} (h : Unbordered word) (skip : Nat)
    (text : List Char) :
    countFrom word skip text
      = (List.range text.length).countP fun place =>
          decide (skip ≤ place) && standsAt word text place := by
  induction text generalizing skip with
  | nil =>
      cases skip with
      | zero => rfl
      | succ skip => rfl
  | cons c rest ih =>
      rw [countP_range_cons]
      cases skip with
      | succ skip =>
          rw [countFrom, ih]
          simp [standsAt]
      | zero =>
          rw [countFrom]
          split
          · rename_i hfirst
            rw [List.isPrefixOf_iff_prefix] at hfirst
            -- The places that are skipped lie inside of the occurrence found just now.
            have hskip : ∀ place ∈ List.range rest.length,
                (decide (word.length - 1 ≤ place) && standsAt word rest place) = true
                  ↔ (decide (0 ≤ place + 1) && standsAt word (c :: rest) (place + 1)) = true := by
              intro place _
              have hshift : standsAt word (c :: rest) (place + 1) = standsAt word rest place := rfl
              by_cases hplace : word.length - 1 ≤ place
              · simp [hplace, hshift]
              · have hnot : standsAt word rest place = false := by
                  rw [← Bool.not_eq_true, standsAt_iff]
                  exact h.not_standsAt hfirst (Nat.succ_pos place) (by omega)
                simp [hshift, hnot]
            have hstands : standsAt word (c :: rest) 0 = true := standsAt_iff.mpr hfirst
            rw [ih, List.countP_congr hskip, hstands]
            simp [Nat.add_comm]
          · rename_i hfirst
            have hstands : standsAt word (c :: rest) 0 = false := by
              rw [← Bool.not_eq_true]
              exact hfirst
            rw [ih, hstands]
            simp [standsAt]

/-- A word that cannot overlap itself is counted once for each place where it
    stands. -/
theorem count_eq_countP {word : List Char} (h : Unbordered word) (text : List Char) :
    count word text = (List.range text.length).countP (standsAt word text) := by
  rw [count, countFrom_eq_countP h]
  simp

/-! ## Texts side by side -/

section

variable {word : List Char}

theorem standsAt_append_left {a : List Char} {place : Nat} (hplace : place < a.length)
    (h : standsAt word a place = true) (b : List Char) : standsAt word (a ++ b) place = true := by
  rw [standsAt_iff] at h ⊢
  rw [List.drop_append_of_le_length hplace.le]
  exact h.trans (List.prefix_append _ b)

theorem standsAt_append_right (a b : List Char) (place : Nat) :
    standsAt word (a ++ b) (a.length + place) = standsAt word b place := by
  rw [standsAt, List.drop_length_add_append, standsAt]

/-- An occurrence across the seam comes on top of those in the two texts. -/
theorem count_add_count_le (h : Unbordered word) (a b : List Char) :
    count word a + count word b ≤ count word (a ++ b) := by
  have hleft : (List.range a.length).countP (standsAt word a)
      ≤ (List.range a.length).countP (standsAt word (a ++ b)) := by
    apply List.countP_mono_left
    intro place hplace hstands
    exact standsAt_append_left (List.mem_range.mp hplace) hstands b
  have hright : (List.range b.length).countP (standsAt word b)
      = ((List.range b.length).map (a.length + ·)).countP (standsAt word (a ++ b)) := by
    rw [List.countP_map]
    apply List.countP_congr
    intro place _
    rw [Function.comp_apply, standsAt_append_right]
  rw [count_eq_countP h, count_eq_countP h, count_eq_countP h, List.length_append, List.range_add,
    List.countP_append, ← hright]
  omega

end

end SnippetScope.Text
