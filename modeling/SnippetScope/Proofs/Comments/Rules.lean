/-
  SnippetScope.Proofs.Comments.Rules

  Where the comment rules of a language apply, in terms of the marks alone: a
  line comment is there wherever its mark is, a block comment wherever an
  opening mark is followed, without overlap, by a closing one.
-/
import SnippetScope.Language.Comments
import SnippetScope.Proofs.Pattern.Cuts

namespace SnippetScope

open Pattern (Place Progress Leads)

/-! ## The marks of each language -/

/-- The mark of line comments. -/
def Language.lineMark : Language → String
  | python => "#"
  | cpp | java | c | go | rust => "//"

/-- The opening and closing marks of block comments. -/
def Language.blockMarks : Language → List (String × String)
  | python => [("\"\"\"", "\"\"\""), ("'''", "'''")]
  | cpp | java | c | go | rust => [("/*", "*/")]

/-- Line comments come first, then block comments. -/
theorem Language.commentRules_eq (language : Language) :
    language.commentRules = .toLineEnd language.lineMark
      :: language.blockMarks.map fun marks => .between marks.1 marks.2 := by
  cases language <;> rfl

/-! ## Complete comments -/

/-- The text holds an opening mark and, behind it, a closing one. -/
def HasBlock (opening closing : String) (text : List Char) : Prop :=
  ∃ body, opening.toList ++ body ++ closing.toList <:+: text

namespace CommentRule

/-- The text holds a comment of the rule. -/
def OccursIn : CommentRule → List Char → Prop
  | toLineEnd mark, text => mark.toList <:+: text
  | between opening closing, text => HasBlock opening closing text

/-- The mark that opens the comments of the rule. -/
def opening : CommentRule → String
  | toLineEnd mark => mark
  | between opening _ => opening

theorem opening_ne_nil (language : Language) {rule : CommentRule}
    (h : rule ∈ language.commentRules) : rule.opening.toList ≠ [] := by
  have hall : ∀ language : Language,
      language.commentRules.all (fun rule => !rule.opening.toList.isEmpty) = true := by
    intro language
    cases language <;> decide
  simpa using List.all_eq_true.mp (hall language) rule h

/-- What a comment covers, at the place where its pattern is matched. -/
def Covers : CommentRule → List Char → Prop
  | toLineEnd mark, covered => mark.toList <+: covered
  | between opening closing, covered =>
    ∃ body, covered = opening.toList ++ body ++ closing.toList

theorem covers_of_leads {rule : CommentRule} {p q : Progress} (h : Leads rule.pattern p q) :
    ∃ covered, p.place.Spans covered q.place ∧ rule.Covers covered := by
  cases rule with
  | toLineEnd mark =>
      cases h with
      | seq hmark hrest =>
          obtain ⟨hspan, -⟩ := Pattern.leads_text_iff.mp hmark
          obtain ⟨rest, hspan'⟩ := hrest.spans
          exact ⟨_, hspan.trans hspan', List.prefix_append _ _⟩
  | between opening closing =>
      cases h with
      | seq hfront hclosing =>
          cases hfront with
          | seq hopening hbody =>
              obtain ⟨hspan, -⟩ := Pattern.leads_text_iff.mp hopening
              obtain ⟨body, hspan'⟩ := hbody.spans
              obtain ⟨hspan'', -⟩ := Pattern.leads_text_iff.mp hclosing
              exact ⟨_, (hspan.trans hspan').trans hspan'', body, rfl⟩

/-- Wherever its marks stand, the rule can be matched. -/
theorem exists_leads_of_covers {rule : CommentRule} {covered : List Char}
    (hcovers : rule.Covers covered) {start stop : Place} (hspan : start.Spans covered stop) :
    ∃ q, Leads rule.pattern ⟨start, none⟩ q := by
  cases rule with
  | toLineEnd mark =>
      obtain ⟨rest, rfl⟩ := hcovers
      obtain ⟨behind, hmark, -⟩ := hspan.split
      have hlead : Leads (.text mark) ⟨start, none⟩ ⟨behind, none⟩ :=
        Pattern.leads_text_iff.mpr ⟨hmark, rfl⟩
      exact ⟨_, .seq hlead (.longest (.refl _) (by simp) (by simp))⟩
  | between opening closing =>
      obtain ⟨body, rfl⟩ := hcovers
      obtain ⟨behind, hfront, hclosing⟩ := hspan.split
      obtain ⟨inner, hopening, hbody⟩ := hfront.split
      have hlead : Leads (.text opening) ⟨start, none⟩ ⟨inner, none⟩ :=
        Pattern.leads_text_iff.mpr ⟨hopening, rfl⟩
      have hlead' : Leads (.text closing) ⟨behind, none⟩ ⟨stop, none⟩ :=
        Pattern.leads_text_iff.mpr ⟨hclosing, rfl⟩
      exact ⟨_, .seq (.seq hlead (.shortest hbody (by simp))) hlead'⟩

/-- The pattern of a rule is matched somewhere in a text exactly if the text
    holds a comment of the rule. -/
theorem isIn_pattern_iff {rule : CommentRule} {text : List Char} :
    rule.pattern.isIn text = true ↔ rule.OccursIn text := by
  -- Both sides speak of a stretch that a comment can cover.
  have hcovered : rule.OccursIn text ↔ ∃ covered, rule.Covers covered ∧ covered <:+: text := by
    cases rule with
    | toLineEnd mark =>
        constructor
        · intro h
          exact ⟨_, List.prefix_rfl, h⟩
        · rintro ⟨covered, hmark, hin⟩
          exact hmark.isInfix.trans hin
    | between opening closing =>
        constructor
        · rintro ⟨body, h⟩
          exact ⟨_, ⟨body, rfl⟩, h⟩
        · rintro ⟨_, ⟨body, rfl⟩, h⟩
          exact ⟨body, h⟩
  rw [hcovered, Pattern.isIn_iff]
  constructor
  · rintro ⟨stretch, start, hspan, hmatch⟩
    obtain ⟨stop, hlead⟩ := Pattern.isSome_matchAt_iff.mp hmatch
    obtain ⟨covered, hspan', hcovers⟩ := covers_of_leads hlead
    refine ⟨covered, hcovers, stretch, stop.place.rest, ?_⟩
    rw [List.append_assoc, ← hspan'.rest_eq]
    exact hspan.rest_eq.symm
  · rintro ⟨covered, hcovers, front, behind, rfl⟩
    rw [List.append_assoc]
    have hfront := Place.Spans.append none front (covered ++ behind)
    exact ⟨front, _, hfront,
      Pattern.isSome_matchAt_iff.mpr (exists_leads_of_covers hcovers (.append _ covered behind))⟩

/-- A match of a rule with a proper mark covers at least that mark. -/
theorem text_ne_nil_of_matchAt {rule : CommentRule} (hmark : rule.opening.toList ≠ [])
    {start : Place} {m : Pattern.Match} (h : rule.pattern.matchAt? start = some m) :
    m.text ≠ [] := by
  obtain ⟨stop, hlead, hspan, -⟩ := Pattern.exists_leads_of_matchAt h
  obtain ⟨covered, hspan', hcovers⟩ := covers_of_leads hlead
  have htext : m.text = covered := hspan.upTo_eq.symm.trans hspan'.upTo_eq
  rw [htext]
  rintro rfl
  cases rule with
  | toLineEnd mark => exact hmark (List.prefix_nil.mp hcovers)
  | between opening closing =>
      obtain ⟨body, hnil⟩ := hcovers
      exact hmark (List.append_eq_nil_iff.mp (List.append_eq_nil_iff.mp hnil.symm).1).1

/-- Removal of a rule's comments leaves a text as it is exactly if the text
    holds none. -/
theorem remove_eq_self_iff {rule : CommentRule} (hmark : rule.opening.toList ≠ [])
    {text : List Char} : rule.pattern.remove text = text ↔ ¬ rule.OccursIn text := by
  rw [Pattern.remove_eq_self_iff,
    Pattern.findAll_eq_nil_iff fun _ _ h => text_ne_nil_of_matchAt hmark h,
    ← isIn_pattern_iff, Bool.not_eq_true]

end CommentRule

end SnippetScope
