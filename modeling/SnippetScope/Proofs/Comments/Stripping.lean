/-
  SnippetScope.Proofs.Comments.Stripping

  What is left of a text once its comments are gone.  A pass only leaves out
  characters, so one that does not shorten the text has found nothing; hence
  the passes end, and they end at a text without any comment
  (`stripComments_settled`).
-/
import SnippetScope.Outline
import SnippetScope.Proofs.Comments.Rules
import Mathlib.Data.List.Infix
import Mathlib.Logic.Function.Iterate

namespace SnippetScope

/-! ## One pass -/

theorem removeComments_sublist (rules : List CommentRule) (text : List Char) :
    (removeComments rules text).Sublist text := by
  induction rules generalizing text with
  | nil => exact List.Sublist.refl text
  | cons rule rules ih => exact (ih _).trans (Pattern.remove_sublist rule.pattern text)

/-- A pass leaves a text as it is exactly if the text holds no comment of any
    of the rules. -/
theorem removeComments_eq_self_iff {rules : List CommentRule}
    (hmarks : ∀ rule ∈ rules, rule.opening.toList ≠ []) {text : List Char} :
    removeComments rules text = text ↔ ∀ rule ∈ rules, ¬ rule.OccursIn text := by
  induction rules with
  | nil => simp [removeComments]
  | cons rule rules ih =>
      have hrule : rule.pattern.remove text = text ↔ ¬ rule.OccursIn text :=
        CommentRule.remove_eq_self_iff (hmarks rule List.mem_cons_self)
      have hrules := ih fun r hr => hmarks r (List.mem_cons_of_mem _ hr)
      rw [List.forall_mem_cons, ← hrule, ← hrules]
      constructor
      · intro h
        -- Nothing comes back, so the first rule alone cannot have removed anything.
        have hfirst : rule.pattern.remove text = text := by
          refine (Pattern.remove_sublist rule.pattern text).antisymm ?_
          have := removeComments_sublist rules (rule.pattern.remove text)
          rwa [show removeComments rules (rule.pattern.remove text) = text from h] at this
        refine ⟨hfirst, ?_⟩
        rwa [removeComments, List.foldl_cons, hfirst] at h
      · rintro ⟨hfirst, hrest⟩
        rw [removeComments, List.foldl_cons, hfirst]
        exact hrest

/-! ## Repeated passes -/

theorem stripWith_of_fixed {rules : List CommentRule} {text : List Char}
    (h : removeComments rules text = text) : stripWith rules text = text := by
  rw [stripWith]
  simp [h]

/-- The first pass can be made beforehand. -/
theorem stripWith_removeComments (rules : List CommentRule) (text : List Char) :
    stripWith rules (removeComments rules text) = stripWith rules text := by
  by_cases hlt : (removeComments rules text).length < text.length
  · conv_rhs => rw [stripWith]
    simp [hlt]
  · have hfixed : removeComments rules text = text :=
      (removeComments_sublist rules text).eq_of_length_le (Nat.le_of_not_lt hlt)
    rw [hfixed]

/-- Passes that shorten the text until none does: there are at most as many as
    the text has characters, and then one more changes nothing. -/
theorem exists_passes_stripWith (rules : List CommentRule) (text : List Char) :
    ∃ passes ≤ text.length, (removeComments rules)^[passes] text = stripWith rules text
      ∧ removeComments rules (stripWith rules text) = stripWith rules text := by
  generalize hn : text.length = n
  induction n using Nat.strongRecOn generalizing text with
  | ind n ih =>
      subst hn
      by_cases hlt : (removeComments rules text).length < text.length
      · obtain ⟨passes, hle, hpasses, hfixed⟩ := ih _ hlt (removeComments rules text) rfl
        rw [stripWith_removeComments] at hpasses hfixed
        refine ⟨passes + 1, by omega, ?_, hfixed⟩
        rw [Function.iterate_succ_apply, hpasses]
      · -- A pass that does not shorten the text has left out nothing.
        have hfixed : removeComments rules text = text :=
          (removeComments_sublist rules text).eq_of_length_le (Nat.le_of_not_lt hlt)
        rw [stripWith_of_fixed hfixed]
        exact ⟨0, Nat.zero_le _, rfl, hfixed⟩

theorem stripWith_sublist (rules : List CommentRule) (text : List Char) :
    (stripWith rules text).Sublist text := by
  obtain ⟨passes, -, hpasses, -⟩ := exists_passes_stripWith rules text
  rw [← hpasses]
  clear hpasses
  induction passes with
  | zero => exact List.Sublist.refl text
  | succ passes ih =>
      rw [Function.iterate_succ_apply']
      exact (removeComments_sublist rules _).trans ih

/-! ## Texts without comments -/

/-- No comment of the language is left in the text. -/
def Language.CommentFree : Language → List Char → Prop
  | python, text =>
    '#' ∉ text ∧ ¬ HasBlock "\"\"\"" "\"\"\"" text ∧ ¬ HasBlock "'''" "'''" text
  | cpp, text | java, text | c, text | go, text | rust, text =>
    ¬ "//".toList <:+: text ∧ ¬ HasBlock "/*" "*/" text

theorem Language.commentFree_iff (language : Language) (text : List Char) :
    language.CommentFree text ↔ ∀ rule ∈ language.commentRules, ¬ rule.OccursIn text := by
  have hhash : '#' ∈ text ↔ "#".toList <:+: text := (List.singleton_infix_iff '#' text).symm
  cases language <;>
    simp only [Language.CommentFree, Language.commentRules, List.forall_mem_cons,
      CommentRule.OccursIn, hhash] <;>
    simp

/-- What is left of a text without its comments has come about by leaving out
    characters, in no more passes than the text has characters, and no comment
    rule of the language applies to it.  So it is left alone from then on, and
    its outline is that of the text, apart from the text as given and the
    number of its lines. -/
theorem stripComments_settled (language : Language) (text : String) :
    let code := stripComments language text.toList
    (∃ passes ≤ text.toList.length,
        (removeComments language.commentRules)^[passes] text.toList = code)
      ∧ code.Sublist text.toList
      ∧ (∀ rule ∈ language.commentRules, rule.pattern.isIn code = false)
      ∧ language.CommentFree code
      ∧ stripComments language code = code
      ∧ Outline.ofText language (String.ofList code)
          = { Outline.ofText language text with
              given := String.ofList code
              lines := (Text.splitAt '\n' code).length } := by
  intro code
  obtain ⟨passes, hle, hpasses, hfixed⟩ :=
    exists_passes_stripWith language.commentRules text.toList
  have hnone : ∀ rule ∈ language.commentRules, ¬ rule.OccursIn code :=
    (removeComments_eq_self_iff fun _ => CommentRule.opening_ne_nil language).mp hfixed
  have hagain : stripComments language code = code := stripWith_of_fixed hfixed
  refine ⟨⟨passes, hle, hpasses⟩, stripWith_sublist _ _, fun rule hrule => ?_,
    (language.commentFree_iff code).mpr hnone, hagain, ?_⟩
  · rw [← Bool.not_eq_true, CommentRule.isIn_pattern_iff]
    exact hnone rule hrule
  · simp only [Outline.ofText, String.toList_ofList, hagain]
    rfl

end SnippetScope
