/-
  SnippetScope.Proofs.Comments.Blocks

  What is left of a text without its block comments, said as a relation
  (`WithoutBlocks`): a character that opens none is kept, and a block from an
  opening mark to the first closing one is left out.  Removal gives what the
  relation says (`remove_between`).
-/
import SnippetScope.Language.Comments
import SnippetScope.Proofs.Comments.Rules
import SnippetScope.Proofs.Pattern.First

namespace SnippetScope

open Pattern (Place StartsNowhere)

/-- Without its blocks the text is the code. -/
inductive WithoutBlocks (opening closing : String) : (text code : List Char) → Prop where
  | done : WithoutBlocks opening closing [] []
  | kept {c : Char} {text code : List Char} (hopening : ¬ opening.toList <+: c :: text)
      (hrest : WithoutBlocks opening closing text code) :
      WithoutBlocks opening closing (c :: text) (c :: code)
  | block {body text code : List Char}
      (hbody : StartsNowhere closing.toList body (closing.toList ++ text))
      (hrest : WithoutBlocks opening closing text code) :
      WithoutBlocks opening closing
        (opening.toList ++ (body ++ (closing.toList ++ text))) code

variable {opening closing : String}

/-- A block comment is found only where its opening mark stands. -/
theorem opening_prefix_of_matchAt {place : Place} {m : Pattern.Match}
    (h : (CommentRule.between opening closing).pattern.matchAt? place = some m) :
    opening.toList <+: place.rest := by
  obtain ⟨stop, hlead, -⟩ := Pattern.exists_leads_of_matchAt h
  obtain ⟨covered, hspan, body, rfl⟩ := CommentRule.covers_of_leads hlead
  refine ⟨body ++ closing.toList ++ stop.place.rest, ?_⟩
  rw [hspan.rest_eq]
  simp only [List.append_assoc]

/-- Removing block comments leaves out the blocks. -/
theorem remove_between (hopening : opening.toList ≠ []) {text code : List Char}
    (h : WithoutBlocks opening closing text code) :
    (CommentRule.between opening closing).pattern.remove text = code := by
  rw [Pattern.remove, Pattern.pieces_eq]
  -- The pieces do not depend on what stands before the text.
  generalize (none : Option Char) = prev
  induction h generalizing prev with
  | done => rfl
  | @kept c text code hnot hrest ih =>
      have hnone : ∀ m, (CommentRule.between opening closing).pattern.matchAt?
          ⟨prev, c :: text⟩ = some m → m.text = [] :=
        fun m hm => absurd (opening_prefix_of_matchAt hm) hnot
      rw [Pattern.piecesFrom_of_no_match hnone]
      exact congrArg (c :: ·) (ih (some c))
  | @block body text code hbody hrest ih =>
      have hmatch : (CommentRule.between opening closing).pattern.matchAt?
          ⟨prev, opening.toList ++ (body ++ (closing.toList ++ text))⟩
            = some ⟨opening.toList ++ (body ++ closing.toList), none⟩ :=
        Pattern.matchAt_enclosed hbody prev
      have hspan : (⟨prev, opening.toList ++ (body ++ (closing.toList ++ text))⟩ : Place).Spans
          (opening.toList ++ (body ++ closing.toList))
          ⟨(opening.toList ++ (body ++ closing.toList)).getLast?.or prev, text⟩ :=
        ⟨by simp only [List.append_assoc], rfl⟩
      obtain ⟨c, rest, hcons⟩ := List.exists_cons_of_ne_nil hopening
      rw [hcons, List.cons_append] at hmatch hspan ⊢
      rw [Pattern.piecesFrom_of_match hmatch (by simp) hspan]
      exact ih _

end SnippetScope
