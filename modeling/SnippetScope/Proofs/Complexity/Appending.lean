/-
  SnippetScope.Proofs.Complexity.Appending

  What becomes of an estimate when more code follows.  No loop keyword of either
  part is lost (`loopKeywords_add_le`), the depth reached in the first part stays
  reached whatever the depth is at its end (`braceDepth_le_append`), and the time
  class goes up with both counts (`rank_timeClass_le`).  Hence an estimate never
  gets better by code behind it (`estimate_append`).
-/
import SnippetScope.Proofs.Complexity.BraceDepth
import SnippetScope.Proofs.Text.Occurrences

namespace SnippetScope

namespace Complexity

/-! ## Loop keywords -/

theorem loopKeywords_add_le (a b : List Char) :
    loopKeywords a + loopKeywords b ≤ loopKeywords (a ++ b) := by
  have hfor : Text.Unbordered "for".toList := by decide
  have hwhile : Text.Unbordered "while".toList := by decide
  have hfors := Text.count_add_count_le hfor a b
  have hwhiles := Text.count_add_count_le hwhile a b
  simp only [loopKeywords]
  omega

/-! ## Brace depth -/

/-- Closing braces behind a text do not undo the depth reached in it. -/
theorem braceDepth_le_append (a b : List Char) : braceDepth a ≤ braceDepth (a ++ b) := by
  have hboth := braceDepth_append a b
  omega

-- In front of a text they do: the depth is counted from where the text is entered.
example : braceDepth (['\x7d'] ++ ['\x7b']) < braceDepth ['\x7b'] := by decide

/-! ## Time classes -/

/-- The depth only matters where there are several loops. -/
theorem rank_timeClass (loops depth : Nat) :
    (timeClass loops depth).rank
      = if loops ≤ 1 then loops else if nestedDepth ≤ depth then 3 else 2 := by
  rw [timeClass]
  by_cases hnone : loops = 0
  · rw [if_pos hnone, hnone]
    rfl
  · rw [if_neg hnone]
    by_cases hone : loops = 1
    · rw [if_pos hone, hone]
      rfl
    · have hseveral : ¬ loops ≤ 1 := by omega
      rw [if_neg hone, if_neg hseveral]
      split <;> rfl

theorem rank_timeClass_le {loops loops' depth depth' : Nat} (hloops : loops ≤ loops')
    (hdepth : depth ≤ depth') :
    (timeClass loops depth).rank ≤ (timeClass loops' depth').rank := by
  rw [rank_timeClass, rank_timeClass]
  split_ifs <;> omega

end Complexity

namespace Estimate

/-- Code that follows never lowers an estimate, whatever languages the texts are
    read in.  The loops of both parts count, the depth of the first part stays
    reached, and the time class is at least that of the first part. -/
theorem estimate_append (a b : String) (first second whole : Language) :
    let before := ofText a (Outline.ofText first a)
    let behind := ofText b (Outline.ofText second b)
    let together := ofText (a ++ b) (Outline.ofText whole (a ++ b))
    before.loops + behind.loops ≤ together.loops
      ∧ before.depth ≤ together.depth
      ∧ before.time.rank ≤ together.time.rank := by
  intro before behind together
  have hloops : before.loops + behind.loops ≤ together.loops := by
    have hkeywords := Complexity.loopKeywords_add_le a.toList b.toList
    rw [← String.toList_append] at hkeywords
    exact hkeywords
  have hdepth : before.depth ≤ together.depth := by
    have hbraces := Complexity.braceDepth_le_append a.toList b.toList
    rw [← String.toList_append] at hbraces
    exact hbraces
  have htime : before.time.rank ≤ together.time.rank :=
    Complexity.rank_timeClass_le (Nat.le_of_add_right_le hloops) hdepth
  exact ⟨hloops, hdepth, htime⟩

end Estimate

end SnippetScope
