/-
  SnippetScope.Proofs.Language.Scores

  Scores of languages.  No keyword can overlap itself, so a score is the number
  of places where keywords of the language stand, each place counted for each
  keyword (`score_eq_card`); the language of a text is the first one with the
  highest score (`isFirstBest_ofScores`).
-/
import SnippetScope.Language.Detection
import SnippetScope.Proofs.Text.Occurrences
import Mathlib

namespace SnippetScope.Language

theorem mem_all (language : Language) : language ∈ all := by
  cases language <;> decide

/-! ## Scores -/

theorem unbordered_keywords (language : Language) :
    ∀ word ∈ language.keywords, Text.Unbordered word.toList := by
  cases language <;> decide

theorem nodup_keywords (language : Language) : language.keywords.Nodup := by
  cases language <;> decide

/-- The keywords of the language with the places of the text where they stand. -/
def keywordPlaces (text : List Char) (language : Language) : Finset (String × Nat) :=
  (language.keywords.toFinset ×ˢ Finset.range text.length).filter
    fun p => p.1.toList <+: text.drop p.2

/-- A keyword is counted once for each place where it stands. -/
theorem count_eq_card {word : List Char} (h : Text.Unbordered word) (text : List Char) :
    Text.count word text
      = ((Finset.range text.length).filter fun place => word <+: text.drop place).card := by
  have hstands : Text.standsAt word text = fun place => decide (word <+: text.drop place) := by
    funext place
    rw [Bool.eq_iff_iff, Text.standsAt_iff, decide_eq_true_iff]
  rw [Text.count_eq_countP h, hstands, List.countP_eq_length_filter]
  rfl

/-- The score of a language counts all occurrences, also those that overlap. -/
theorem score_eq_card (text : List Char) (language : Language) :
    score text language = (keywordPlaces text language).card := by
  have hcount : ∀ word ∈ language.keywords, Text.count word.toList text
      = ∑ place ∈ Finset.range text.length, if word.toList <+: text.drop place then 1 else 0 := by
    intro word hword
    rw [count_eq_card (unbordered_keywords language word hword), Finset.card_filter]
  rw [score, ← List.sum_eq_foldl, List.map_congr_left hcount,
    ← List.sum_toFinset _ (nodup_keywords language), keywordPlaces, Finset.card_filter,
    Finset.sum_product]

/-! ## The best score -/

/-- The language has the highest score, and every earlier one a lower score. -/
structure IsFirstBest (score : Language → Nat) (language : Language) : Prop where
  le : ∀ other, score other ≤ score language
  lt_of_index_lt : ∀ other : Language, other.index < language.index → score other < score language

/-- What the comparison keeps has a higher score than all that came before it,
    and at least the score of all that come after it. -/
theorem exists_split_foldl_better (start : Language × Nat) (scored : List (Language × Nat)) :
    ∃ before after, start :: scored = before ++ scored.foldl better start :: after
      ∧ (∀ p ∈ before, p.2 < (scored.foldl better start).2)
      ∧ ∀ p ∈ after, p.2 ≤ (scored.foldl better start).2 := by
  induction scored generalizing start with
  | nil => exact ⟨[], [], rfl, by simp, by simp⟩
  | cons next rest ih =>
      rw [List.foldl_cons]
      by_cases h : start.2 < next.2
      · -- The start is given up, for good: what is kept has at least the next score.
        have hnext : better start next = next := if_pos h
        rw [hnext]
        obtain ⟨before, after, hsplit, hbefore, hafter⟩ := ih next
        have hle : next.2 ≤ (rest.foldl better next).2 := by
          cases before with
          | nil =>
              obtain ⟨hbest, -⟩ := List.cons.inj hsplit
              exact (congrArg Prod.snd hbest).le
          | cons first before =>
              obtain ⟨rfl, -⟩ := List.cons.inj hsplit
              exact (hbefore next List.mem_cons_self).le
        refine ⟨start :: before, after, by rw [hsplit, List.cons_append], ?_, hafter⟩
        rw [List.forall_mem_cons]
        exact ⟨lt_of_lt_of_le h hle, hbefore⟩
      · have hstart : better start next = start := if_neg h
        rw [hstart]
        obtain ⟨before, after, hsplit, hbefore, hafter⟩ := ih start
        cases before with
        | nil =>
            obtain ⟨hbest, hrest⟩ := List.cons.inj hsplit
            refine ⟨[], next :: rest, by rw [← hbest]; rfl, by simp, ?_⟩
            rw [List.forall_mem_cons, ← hbest, hrest]
            rw [← hbest] at hafter
            exact ⟨not_lt.mp h, hafter⟩
        | cons first before =>
            obtain ⟨rfl, hrest⟩ := List.cons.inj hsplit
            have hlt : start.2 < (rest.foldl better start).2 := hbefore start List.mem_cons_self
            refine ⟨start :: next :: before, after,
              congrArg (fun scored => start :: next :: scored) hrest, ?_, hafter⟩
            rw [List.forall_mem_cons, List.forall_mem_cons]
            exact ⟨hlt, by omega, (List.forall_mem_cons.mp hbefore).2⟩

/-- The scores of the languages before the chosen one are lower, and those of
    the languages after it are not higher. -/
theorem exists_split_ofScores (text : List Char) :
    ∃ before after, all = before ++ ofScores text :: after
      ∧ (∀ other ∈ before, score text other < score text (ofScores text))
      ∧ ∀ other ∈ after, score text other ≤ score text (ofScores text) := by
  obtain ⟨before, after, hsplit, hbefore, hafter⟩ :=
    exists_split_foldl_better (cpp, 0) (scores text)
  cases before with
  | nil =>
      -- The start is kept: no language has a score above zero.
      obtain ⟨hbest, hscores⟩ := List.cons.inj hsplit
      have hcpp : ofScores text = cpp := by rw [ofScores, ← hbest]
      rw [hcpp]
      refine ⟨[], [python, java, c, go, rust], rfl, by simp, fun other _ => ?_⟩
      have hmem : (other, score text other) ∈ after := by
        rw [← hscores]
        exact List.mem_map.mpr ⟨other, mem_all other, rfl⟩
      have hzero := hafter _ hmem
      rw [← hbest] at hzero
      exact hzero.trans (Nat.zero_le _)
  | cons first before =>
      obtain ⟨-, hscores⟩ := List.cons.inj hsplit
      obtain ⟨front, back, hall, hfront, hback⟩ := List.map_eq_append_iff.mp hscores
      obtain ⟨language, rest, rfl, hlanguage, hrest⟩ := List.map_eq_cons_iff.mp hback
      have hofScores : ofScores text = language := by rw [ofScores, ← hlanguage]
      have hscore : (((scores text).foldl better (cpp, 0))).2 = score text language := by
        rw [← hlanguage]
      rw [hscore] at hbefore hafter
      rw [hofScores]
      refine ⟨front, rest, hall, fun other hother => ?_, fun other hother => ?_⟩
      · refine hbefore (other, score text other) (List.mem_cons_of_mem _ ?_)
        rw [← hfront]
        exact List.mem_map.mpr ⟨other, hother, rfl⟩
      · refine hafter (other, score text other) ?_
        rw [← hrest]
        exact List.mem_map.mpr ⟨other, hother, rfl⟩

/-- The list of all languages is in the order of their indices. -/
theorem pairwise_index_all : all.Pairwise fun a b => a.index < b.index := by
  decide

/-- The language of a text is the first one with the highest score. -/
theorem isFirstBest_ofScores (text : List Char) : IsFirstBest (score text) (ofScores text) := by
  obtain ⟨before, after, hall, hbefore, hafter⟩ := exists_split_ofScores text
  have hplace (other : Language) : other ∈ before ∨ other = ofScores text ∨ other ∈ after := by
    have hmem := mem_all other
    rwa [hall, List.mem_append, List.mem_cons] at hmem
  have hindex : ∀ other ∈ after, (ofScores text).index < other.index := by
    have hordered := pairwise_index_all
    rw [hall] at hordered
    exact (List.pairwise_cons.mp (List.pairwise_append.mp hordered).2.1).1
  refine ⟨fun other => ?_, fun other hother => ?_⟩
  · rcases hplace other with hother | rfl | hother
    · exact (hbefore other hother).le
    · exact le_rfl
    · exact hafter other hother
  · rcases hplace other with hbelow | rfl | habove
    · exact hbefore other hbelow
    · exact absurd hother (lt_irrefl _)
    · exact absurd hother (hindex other habove).asymm

theorem index_injective {a b : Language} (h : a.index = b.index) : a = b := by
  revert h
  cases a <;> cases b <;> decide

/-- There is only one first language with the highest score. -/
theorem IsFirstBest.unique {score : Language → Nat} {a b : Language} (ha : IsFirstBest score a)
    (hb : IsFirstBest score b) : a = b := by
  apply index_injective
  rcases Nat.lt_trichotomy a.index b.index with h | h | h
  · exact absurd (ha.le b) (hb.lt_of_index_lt a h).not_ge
  · exact h
  · exact absurd (hb.le a) (ha.lt_of_index_lt b h).not_ge

end SnippetScope.Language
