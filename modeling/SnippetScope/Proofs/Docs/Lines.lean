/-
  SnippetScope.Proofs.Docs.Lines

  Lines of a documentation: what they start with, and which of them lie below
  a heading.  Most lines are bullets, and bullets are neither headings nor the
  ends of a block of code (`filter_starts_bullets`).
-/
import SnippetScope.Docs.Advice
import SnippetScope.Proofs.Text.Blank
import SnippetScope.Proofs.Text.Lines

namespace SnippetScope.Docs

open Text (OnOneLine)

/-- The line starts with the mark. -/
def starts (mark line : String) : Bool :=
  mark.toList.isPrefixOf line.toList

theorem starts_ofList (mark line : List Char) :
    starts (String.ofList mark) (String.ofList line) = mark.isPrefixOf line := by
  rw [starts, String.toList_ofList, String.toList_ofList]

/-- The lines of a text. -/
def linesOf (text : String) : List String :=
  (Text.lines text.toList).map String.ofList

/-- The lines below a heading, up to the next heading of a section. -/
def linesBelow (heading : String) (lines : List String) : List String :=
  ((lines.dropWhile (· ≠ heading)).drop 1).takeWhile fun line => !starts "## " line

/-- Lines without line breaks in them are read back from their text. -/
theorem linesOf_join {lines : List String} (h : ∀ line ∈ lines, OnOneLine line.toList) :
    linesOf (String.join (lines.map (· ++ "\n"))) = lines := by
  have htext : (String.join (lines.map (· ++ "\n"))).toList
      = Text.unlines (lines.map String.toList) := by
    rw [String.toList_join, Text.unlines, List.flatMap_map, List.flatMap_map]
    simp only [String.toList_append]
    rfl
  have hread : Text.lines (Text.unlines (lines.map String.toList)) = lines.map String.toList := by
    refine Text.lines_unlines fun chars hchars => ?_
    obtain ⟨line, hline, rfl⟩ := List.mem_map.mp hchars
    exact ⟨(h line hline).not_mem (by decide) (by decide),
      (h line hline).not_mem (by decide) (by decide)⟩
  rw [linesOf, htext, hread, List.map_map]
  exact (List.map_congr_left fun line _ => String.ofList_toList).trans (List.map_id _)

/-- Between a heading that stands nowhere before and the next one lie the lines
    of its section. -/
theorem linesBelow_eq {heading next : String} {before body after : List String}
    (hbefore : heading ∉ before) (hbody : body.filter (starts "## ") = [])
    (hnext : starts "## " next = true) :
    linesBelow heading (before ++ heading :: (body ++ next :: after)) = body := by
  have hdrop : ∀ line ∈ before, decide (line ≠ heading) = true := by
    intro line hline
    rw [decide_eq_true_eq]
    rintro rfl
    exact hbefore hline
  have htake : ∀ line ∈ body, (!starts "## " line) = true := by
    intro line hline
    have hno := List.filter_eq_nil_iff.mp hbody line hline
    simpa using hno
  -- Everything before the heading is dropped, and the next heading ends the section.
  rw [linesBelow, List.dropWhile_append_of_pos hdrop]
  simp only [ne_eq, decide_not, List.dropWhile_cons, decide_true, Bool.not_true,
    Bool.false_eq_true, if_false, List.drop_succ_cons, List.drop_zero]
  rw [List.takeWhile_append_of_pos htake]
  simp [hnext]

/-! ## Bullets -/

/-- A line with a dash in front and no line break in it. -/
structure Bullet (line : String) : Prop where
  dash : line.toList.head? = some '-'
  onOneLine : OnOneLine line.toList

theorem Bullet.ofList {chars : List Char} (hdash : chars.head? = some '-')
    (h : OnOneLine chars) : Bullet (String.ofList chars) := by
  refine ⟨?_, .ofList h⟩
  rw [String.toList_ofList]
  exact hdash

theorem Bullet.append {line rest : String} (h : Bullet line) (hrest : OnOneLine rest.toList) :
    Bullet (line ++ rest) := by
  obtain ⟨chars, hchars⟩ := List.head?_eq_some_iff.mp h.dash
  refine ⟨?_, ?_⟩
  · rw [String.toList_append, hchars]
    rfl
  · rw [String.toList_append]
    exact h.onOneLine.append hrest

theorem starts_of_head_ne {mark line : String} {c : Char} (hmark : mark.toList.head? = some c)
    (hline : line.toList.head? ≠ some c) : starts mark line = false := by
  obtain ⟨chars, hchars⟩ := List.head?_eq_some_iff.mp hmark
  rw [starts, hchars]
  cases hl : line.toList with
  | nil => rfl
  | cons d rest =>
      have hne : c ≠ d := by
        rintro rfl
        exact hline (by rw [hl]; rfl)
      have hbeq : (c == d) = false := by simpa using hne
      rw [List.isPrefixOf_cons_cons, hbeq, Bool.false_and]

/-- Bullets start with nothing but their dash. -/
theorem filter_starts_bullets {mark : String} {c : Char} (hmark : mark.toList.head? = some c)
    (hc : c ≠ '-') {lines : List String} (h : ∀ line ∈ lines, Bullet line) :
    lines.filter (starts mark) = [] := by
  refine List.filter_eq_nil_iff.mpr fun line hline => ?_
  have hhead : line.toList.head? ≠ some c := by
    rw [(h line hline).dash]
    exact fun heq => hc (Option.some.inj heq).symm
  rw [starts_of_head_ne hmark hhead]
  exact Bool.false_ne_true

theorem forall_mem_onlyIf {condition : Bool} {item : String} {P : String → Prop} (h : P item) :
    ∀ i ∈ onlyIf condition [item], P i := by
  intro i hi
  rw [onlyIf] at hi
  split at hi
  · exact List.mem_singleton.mp hi ▸ h
  · cases hi

end SnippetScope.Docs
