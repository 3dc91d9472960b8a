/-
  SnippetScope.Proofs.Text.Lines

  Texts as parts between separators.  Everything rests on two equations, for a
  text without separator (`splitAt_of_not_mem`) and for one that is cut at its
  first separator (`splitAt_append`), and on the induction that they allow.
  Parts and lines hold no characters but those of their text
  (`subset_of_mem_lines`), joined texts none but those of what is joined
  (`forall_mem_intercalate`).
-/
import SnippetScope.Text.Lines
import Mathlib.Data.List.Basic

namespace SnippetScope.Text

variable {sep : Char}

theorem splitAt_ne_nil (sep : Char) (text : List Char) : splitAt sep text ≠ [] := by
  cases text with
  | nil => simp [splitAt]
  | cons c rest =>
      simp only [splitAt]
      split
      · simp
      · split <;> simp

theorem splitAt_cons_sep (sep : Char) (rest : List Char) :
    splitAt sep (sep :: rest) = [] :: splitAt sep rest := by
  simp [splitAt]

/-- A character that is no separator goes in front of the first part. -/
theorem splitAt_cons_of_ne {c : Char} (h : c ≠ sep) {rest part : List Char}
    {parts : List (List Char)} (hrest : splitAt sep rest = part :: parts) :
    splitAt sep (c :: rest) = (c :: part) :: parts := by
  simp [splitAt, h, hrest]

theorem splitAt_of_not_mem {line : List Char} (h : sep ∉ line) : splitAt sep line = [line] := by
  induction line with
  | nil => rfl
  | cons c line ih =>
      obtain ⟨hc, hline⟩ := List.ne_and_not_mem_of_not_mem_cons h
      exact splitAt_cons_of_ne (Ne.symm hc) (ih hline)

theorem splitAt_append {line : List Char} (h : sep ∉ line) (rest : List Char) :
    splitAt sep (line ++ sep :: rest) = line :: splitAt sep rest := by
  induction line with
  | nil => exact splitAt_cons_sep sep rest
  | cons c line ih =>
      obtain ⟨hc, hline⟩ := List.ne_and_not_mem_of_not_mem_cons h
      exact splitAt_cons_of_ne (Ne.symm hc) (ih hline)

/-- A text has no separator, or one that is the first. -/
theorem not_mem_or_exists_first (sep : Char) (text : List Char) :
    sep ∉ text ∨ ∃ line rest, sep ∉ line ∧ text = line ++ sep :: rest := by
  induction text with
  | nil => exact .inl (by simp)
  | cons c text ih =>
      by_cases hc : c = sep
      · exact .inr ⟨[], text, by simp, by simp [hc]⟩
      · rcases ih with h | ⟨line, rest, hline, rfl⟩
        · exact .inl (List.not_mem_cons_of_ne_of_not_mem (Ne.symm hc) h)
        · exact .inr ⟨c :: line, rest, List.not_mem_cons_of_ne_of_not_mem (Ne.symm hc) hline, rfl⟩

/-- Induction over the parts of a text: the last one, and one in front of a
    separator and what follows it. -/
theorem parts_induction {motive : List Char → Prop} (sep : Char)
    (last : ∀ line, sep ∉ line → motive line)
    (more : ∀ line rest, sep ∉ line → motive rest → motive (line ++ sep :: rest))
    (text : List Char) : motive text := by
  generalize hn : text.length = n
  induction n using Nat.strongRecOn generalizing text with
  | ind n ih =>
      rcases not_mem_or_exists_first sep text with h | ⟨line, rest, hline, rfl⟩
      · exact last text h
      · refine more line rest hline (ih rest.length ?_ rest rfl)
        rw [← hn, List.length_append, List.length_cons]
        omega

/-- Two texts with a separator between them fall into the parts of both. -/
theorem splitAt_append_sep (a b : List Char) :
    splitAt sep (a ++ sep :: b) = splitAt sep a ++ splitAt sep b := by
  induction a using parts_induction sep with
  | last line hline => rw [splitAt_append hline, splitAt_of_not_mem hline, List.singleton_append]
  | more line rest hline ih =>
      rw [List.append_assoc, List.cons_append, splitAt_append hline, ih, splitAt_append hline,
        List.cons_append]

/-- Characters without a separator go in front of the first part. -/
theorem splitAt_append_of_not_mem {line : List Char} (h : sep ∉ line) {text part : List Char}
    {parts : List (List Char)} (htext : splitAt sep text = part :: parts) :
    splitAt sep (line ++ text) = (line ++ part) :: parts := by
  induction line with
  | nil => exact htext
  | cons c line ih =>
      obtain ⟨hc, hline⟩ := List.ne_and_not_mem_of_not_mem_cons h
      exact splitAt_cons_of_ne (Ne.symm hc) (ih hline)

/-- Parts that are joined by separators are found again. -/
theorem splitAt_intercalate {parts : List (List Char)} (hne : parts ≠ [])
    (hparts : ∀ part ∈ parts, sep ∉ part) : splitAt sep (List.intercalate [sep] parts) = parts := by
  induction parts with
  | nil => exact absurd rfl hne
  | cons part rest ih =>
      obtain ⟨hpart, hrest⟩ := List.forall_mem_cons.mp hparts
      cases rest with
      | nil => simpa [List.intercalate] using splitAt_of_not_mem hpart
      | cons next rest =>
          rw [List.intercalate_cons_cons, List.append_assoc, List.singleton_append,
            splitAt_append hpart, ih (by simp) hrest]

/-! ## Characters of parts and of joined parts -/

theorem not_mem_of_mem_splitAt {text part : List Char} (h : part ∈ splitAt sep text) :
    sep ∉ part := by
  induction text using parts_induction sep with
  | last line hline =>
      rw [splitAt_of_not_mem hline, List.mem_singleton] at h
      rwa [h]
  | more line rest hline ih =>
      rw [splitAt_append hline, List.mem_cons] at h
      rcases h with rfl | h
      · exact hline
      · exact ih h

/-- A part holds no characters but those of the text. -/
theorem subset_of_mem_splitAt {text part : List Char} (h : part ∈ splitAt sep text) :
    part ⊆ text := by
  induction text using parts_induction sep with
  | last line hline =>
      rw [splitAt_of_not_mem hline, List.mem_singleton] at h
      rw [h]
      exact List.Subset.refl _
  | more line rest hline ih =>
      rw [splitAt_append hline, List.mem_cons] at h
      rcases h with rfl | h
      · exact List.subset_append_left _ _
      · have hrest : part ⊆ sep :: rest := List.subset_cons_of_subset sep (ih h)
        exact List.subset_append_of_subset_right line hrest

/-- What holds of the characters of all parts and of the separator holds of
    those of the joined text. -/
theorem forall_mem_intercalate {p : Char → Prop} {between : List Char}
    (hbetween : ∀ c ∈ between, p c) {parts : List (List Char)}
    (hparts : ∀ part ∈ parts, ∀ c ∈ part, p c) : ∀ c ∈ List.intercalate between parts, p c := by
  induction parts with
  | nil => exact fun c hc => absurd hc (by simp [List.intercalate])
  | cons part parts ih =>
      obtain ⟨hpart, hrest⟩ := List.forall_mem_cons.mp hparts
      cases parts with
      | nil => simpa [List.intercalate] using hpart
      | cons next parts =>
          rw [List.intercalate_cons_cons, List.forall_mem_append, List.forall_mem_append]
          exact ⟨⟨hpart, hbetween⟩, ih hrest⟩

/-! ## Lines as a reader sees them -/

theorem unlines_cons (line : List Char) (ls : List (List Char)) :
    unlines (line :: ls) = line ++ '\n' :: unlines ls := by
  rw [unlines, List.flatMap_cons, List.append_assoc]
  rfl

theorem splitAt_unlines {ls : List (List Char)} (h : ∀ line ∈ ls, '\n' ∉ line) :
    splitAt '\n' (unlines ls) = ls ++ [[]] := by
  induction ls with
  | nil => rfl
  | cons line ls ih =>
      obtain ⟨hline, hrest⟩ := List.forall_mem_cons.mp h
      rw [unlines_cons, splitAt_append hline, ih hrest, List.cons_append]

/-- Lines that hold no line feed and no carriage return are read back from
    their text. -/
theorem lines_unlines {ls : List (List Char)} (h : ∀ line ∈ ls, '\n' ∉ line ∧ '\r' ∉ line) :
    lines (unlines ls) = ls := by
  have hreturn : ∀ line ∈ ls.reverse, dropReturn line = line := by
    intro line hline
    have hlast : line.getLast? ≠ some '\r' := fun hlast =>
      (h line (List.mem_reverse.mp hline)).2 (List.mem_of_getLast? hlast)
    rw [dropReturn, if_neg hlast]
  rw [lines, splitAt_unlines fun line hline => (h line hline).1, List.reverse_append,
    List.reverse_singleton, List.singleton_append]
  simp only [List.isEmpty_nil, if_true]
  rw [List.map_congr_left hreturn, List.map_id', List.reverse_reverse]

/-- A line holds no characters but those of the text. -/
theorem subset_of_mem_lines {text line : List Char} (h : line ∈ lines text) : line ⊆ text := by
  have hparts : ∀ part ∈ (splitAt '\n' text).reverse, part ⊆ text := fun part hpart =>
    subset_of_mem_splitAt (List.mem_reverse.mp hpart)
  rw [lines] at h
  cases hsplit : (splitAt '\n' text).reverse with
  | nil =>
      rw [hsplit] at h
      cases h
  | cons last before =>
      rw [hsplit] at h hparts
      obtain ⟨hlast, hbefore⟩ := List.forall_mem_cons.mp hparts
      have hended : ∀ part ∈ (before.map dropReturn).reverse, part ⊆ text := by
        intro part hpart
        obtain ⟨whole, hwhole, rfl⟩ := List.mem_map.mp (List.mem_reverse.mp hpart)
        rw [dropReturn]
        split
        · exact List.Subset.trans (List.dropLast_subset whole) (hbefore whole hwhole)
        · exact hbefore whole hwhole
      dsimp only at h
      split at h
      · exact hended line h
      · rcases List.mem_append.mp h with h | h
        · exact hended line h
        · rw [List.mem_singleton.mp h]
          exact hlast

end SnippetScope.Text
