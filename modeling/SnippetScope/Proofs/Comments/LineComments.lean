/-
  SnippetScope.Proofs.Comments.LineComments

  Line comments say nothing.  The first rule of every language cuts each line
  before its first mark (`remove_toLineEnd`), so what stands behind the marks
  is gone before any other rule is applied, and two texts that differ only
  there have the same outline (`lineComments_without_effect`).
-/
import SnippetScope.Proofs.Comments.Stripping
import SnippetScope.Proofs.Text.Lines

namespace SnippetScope

open Pattern (Place Cuts)

/-! ## Cutting lines -/

/-- The part of a line before the first place where the mark stands. -/
def beforeMark (mark : List Char) : (line : List Char) → List Char
  | [] => []
  | c :: rest => if mark.isPrefixOf (c :: rest) then [] else c :: beforeMark mark rest

/-- Each line of a text up to its first mark. -/
def cutLines (mark text : List Char) : List Char :=
  List.intercalate ['\n'] ((Text.splitAt '\n' text).map (beforeMark mark))

variable {mark : List Char}

theorem beforeMark_of_isPrefix {line : List Char} (h : mark <+: line) : beforeMark mark line = [] := by
  cases line with
  | nil => rfl
  | cons c rest => simp [beforeMark, h]

theorem beforeMark_cons_of_not_isPrefix {c : Char} {line : List Char} (h : ¬ mark <+: c :: line) :
    beforeMark mark (c :: line) = c :: beforeMark mark line := by
  simp [beforeMark, h]

theorem beforeMark_isPrefix (mark line : List Char) : beforeMark mark line <+: line := by
  induction line with
  | nil => exact List.prefix_rfl
  | cons c line ih =>
      by_cases h : mark <+: c :: line
      · rw [beforeMark_of_isPrefix h]
        exact List.nil_prefix
      · rw [beforeMark_cons_of_not_isPrefix h]
        exact (List.prefix_cons_inj c).mpr ih

theorem beforeMark_idem (mark line : List Char) :
    beforeMark mark (beforeMark mark line) = beforeMark mark line := by
  induction line with
  | nil => rfl
  | cons c line ih =>
      by_cases h : mark <+: c :: line
      · rw [beforeMark_of_isPrefix h]
        rfl
      · have hcut : ¬ mark <+: c :: beforeMark mark line := fun hm =>
          h (hm.trans ((List.prefix_cons_inj c).mpr (beforeMark_isPrefix mark line)))
        rw [beforeMark_cons_of_not_isPrefix h, beforeMark_cons_of_not_isPrefix hcut, ih]

theorem cutLines_of_not_mem {line : List Char} (h : '\n' ∉ line) :
    cutLines mark line = beforeMark mark line := by
  rw [cutLines, Text.splitAt_of_not_mem h]
  simp

theorem cutLines_append {line : List Char} (h : '\n' ∉ line) (rest : List Char) :
    cutLines mark (line ++ '\n' :: rest) = beforeMark mark line ++ '\n' :: cutLines mark rest := by
  rw [cutLines, Text.splitAt_append h, List.map_cons]
  obtain ⟨part, parts, hparts⟩ := List.exists_cons_of_ne_nil
    (List.map_eq_nil_iff.not.mpr (Text.splitAt_ne_nil '\n' rest) :
      (Text.splitAt '\n' rest).map (beforeMark mark) ≠ [])
  rw [cutLines, hparts]
  simp [List.intercalate]

/-- No line feed is cut away. -/
theorem length_splitAt_cutLines (mark text : List Char) :
    (Text.splitAt '\n' (cutLines mark text)).length = (Text.splitAt '\n' text).length := by
  induction text using Text.parts_induction '\n' with
  | last line hline =>
      have hcut : '\n' ∉ beforeMark mark line :=
        fun h => hline ((beforeMark_isPrefix mark line).subset h)
      rw [cutLines_of_not_mem hline, Text.splitAt_of_not_mem hcut, Text.splitAt_of_not_mem hline]
      rfl
  | more line rest hline ih =>
      have hcut : '\n' ∉ beforeMark mark line :=
        fun h => hline ((beforeMark_isPrefix mark line).subset h)
      rw [cutLines_append hline, Text.splitAt_append hcut, Text.splitAt_append hline,
        List.length_cons, List.length_cons, ih]

theorem cutLines_idem (mark text : List Char) :
    cutLines mark (cutLines mark text) = cutLines mark text := by
  induction text using Text.parts_induction '\n' with
  | last line hline =>
      have hcut : '\n' ∉ beforeMark mark line :=
        fun h => hline ((beforeMark_isPrefix mark line).subset h)
      rw [cutLines_of_not_mem hline, cutLines_of_not_mem hcut, beforeMark_idem]
  | more line rest hline ih =>
      have hcut : '\n' ∉ beforeMark mark line :=
        fun h => hline ((beforeMark_isPrefix mark line).subset h)
      rw [cutLines_append hline, cutLines_append hcut, beforeMark_idem, ih]

/-! ## The first rule cuts lines -/

/-- A line comment that is found starts with its mark and goes on to the next
    line feed or to the end of the text. -/
theorem exists_spans_of_matchAt_toLineEnd {mark : String} {start : Place} {m : Pattern.Match}
    (h : (CommentRule.toLineEnd mark).pattern.matchAt? start = some m) :
    ∃ run stop, start.Spans (mark.toList ++ run) stop ∧ start.Spans m.text stop ∧ '\n' ∉ run
      ∧ ∀ c ∈ stop.rest.head?, c = '\n' := by
  obtain ⟨q, run, stop, hlead, hspan, hrun, hstop, htext⟩ := Pattern.exists_run_of_matchAt h
  obtain ⟨hmark, -⟩ := Pattern.leads_text_iff.mp hlead
  refine ⟨run, stop, hmark.trans hspan, htext, fun hfeed => ?_, fun c hc => ?_⟩
  · simpa using hrun '\n' hfeed
  · simpa using hstop c hc

/-- Without its mark in front of it, a character is not cut away. -/
theorem cutLines_cons {c : Char} {rest : List Char} (h : ¬ mark <+: c :: rest) :
    cutLines mark (c :: rest) = c :: cutLines mark rest := by
  by_cases hc : c = '\n'
  · subst hc
    exact cutLines_append List.not_mem_nil rest
  · rcases Text.not_mem_or_exists_first '\n' rest with hline | ⟨line, behind, hline, rfl⟩
    · have hline' := List.not_mem_cons_of_ne_of_not_mem (Ne.symm hc) hline
      rw [cutLines_of_not_mem hline', cutLines_of_not_mem hline, beforeMark_cons_of_not_isPrefix h]
    · have hline' := List.not_mem_cons_of_ne_of_not_mem (Ne.symm hc) hline
      have hfirst : ¬ mark <+: c :: line := fun hm =>
        h (hm.trans ((List.prefix_cons_inj c).mpr (List.prefix_append line _)))
      rw [← List.cons_append, cutLines_append hline', cutLines_append hline,
        beforeMark_cons_of_not_isPrefix hfirst, List.cons_append]

/-- What is kept next to line comments is each line up to its first mark. -/
theorem kept_eq_cutLines {mark : String} (hmark : mark.toList ≠ []) (hfeed : '\n' ∉ mark.toList)
    {p : Place} {ps : List Pattern.Piece} (h : Cuts (CommentRule.toLineEnd mark).pattern p ps) :
    ps.filterMap Pattern.Piece.kept? = cutLines mark.toList p.rest := by
  induction h with
  | done prev => rfl
  | @found p q m later hmatch hspan _ _ ih =>
      -- The comment ends where its line does, so the cut line goes on behind it.
      obtain ⟨run, stop, hcovers, htext, hrun, hstop⟩ := exists_spans_of_matchAt_toLineEnd hmatch
      obtain rfl := htext.stop_eq hspan
      have hline : '\n' ∉ mark.toList ++ run := by
        simp [hfeed, hrun]
      have hcut : beforeMark mark.toList (mark.toList ++ run) = [] :=
        beforeMark_of_isPrefix (List.prefix_append _ _)
      simp only [List.filterMap_cons, Pattern.Piece.kept?]
      rw [ih, hcovers.rest_eq]
      cases hrest : stop.rest with
      | nil =>
          rw [List.append_nil, cutLines_of_not_mem hline, hcut]
          rfl
      | cons c rest =>
          obtain rfl : c = '\n' := hstop c (by rw [hrest]; rfl)
          rw [cutLines_append hline, hcut]
          exact cutLines_append List.not_mem_nil rest
  | @kept prev c rest later hnone _ ih =>
      simp only [List.filterMap_cons, Pattern.Piece.kept?]
      rw [ih, cutLines_cons]
      -- A mark here would be the start of a comment, and a comment is never empty.
      rintro ⟨behind, hbehind⟩
      have hopening : (CommentRule.toLineEnd mark).opening.toList ≠ [] := hmark
      have hcovers : (CommentRule.toLineEnd mark).Covers mark.toList := List.prefix_rfl
      have hspan : (⟨prev, c :: rest⟩ : Place).Spans mark.toList
          ⟨mark.toList.getLast?.or prev, behind⟩ := ⟨hbehind.symm, rfl⟩
      obtain ⟨m, hm⟩ := Option.isSome_iff_exists.mp
        (Pattern.isSome_matchAt_iff.mpr (CommentRule.exists_leads_of_covers hcovers hspan))
      exact CommentRule.text_ne_nil_of_matchAt hopening hm (hnone m hm)

/-- Removing line comments cuts each line before its first mark. -/
theorem remove_toLineEnd {mark : String} (hmark : mark.toList ≠ []) (hfeed : '\n' ∉ mark.toList)
    (text : List Char) :
    (CommentRule.toLineEnd mark).pattern.remove text = cutLines mark.toList text :=
  kept_eq_cutLines hmark hfeed (Pattern.cuts_pieces _ text)

/-! ## Two runs that differ in line comments only -/

namespace Language

theorem lineMark_ne_nil (language : Language) : language.lineMark.toList ≠ [] := by
  cases language <;> decide

theorem lineFeed_not_mem_lineMark (language : Language) : '\n' ∉ language.lineMark.toList := by
  cases language <;> decide

/-- The text with each line cut before its first mark of a line comment. -/
def withoutLineComments (language : Language) (text : List Char) : List Char :=
  cutLines language.lineMark.toList text

/-- The text holds an opening mark of a block comment and a closing one behind it. -/
def HasBlockComment (language : Language) (text : List Char) : Prop :=
  ∃ marks ∈ language.blockMarks, HasBlock marks.1 marks.2 text

/-- The first pass over a text is the same whatever its line comments say. -/
theorem removeComments_withoutLineComments (language : Language) (text : List Char) :
    removeComments language.commentRules (language.withoutLineComments text)
      = removeComments language.commentRules text := by
  have hcut : ∀ t, (CommentRule.toLineEnd language.lineMark).pattern.remove t
      = cutLines language.lineMark.toList t :=
    remove_toLineEnd language.lineMark_ne_nil language.lineFeed_not_mem_lineMark
  rw [commentRules_eq, removeComments, removeComments, List.foldl_cons, List.foldl_cons, hcut,
    hcut, withoutLineComments, cutLines_idem]

theorem stripComments_withoutLineComments (language : Language) (text : List Char) :
    stripComments language (language.withoutLineComments text) = stripComments language text := by
  rw [stripComments, stripComments, ← stripWith_removeComments,
    removeComments_withoutLineComments, stripWith_removeComments]

/-- Nothing more is removed than line comments if no block comment is left
    between them. -/
theorem stripComments_eq_withoutLineComments {language : Language} {text : List Char}
    (h : ¬ language.HasBlockComment (language.withoutLineComments text)) :
    stripComments language text = language.withoutLineComments text := by
  rw [← stripComments_withoutLineComments]
  apply stripWith_of_fixed
  rw [removeComments_eq_self_iff fun _ => CommentRule.opening_ne_nil language, commentRules_eq,
    List.forall_mem_cons]
  constructor
  · have hmark : (CommentRule.toLineEnd language.lineMark).opening.toList ≠ [] :=
      language.lineMark_ne_nil
    rw [← CommentRule.remove_eq_self_iff hmark, withoutLineComments,
      remove_toLineEnd language.lineMark_ne_nil language.lineFeed_not_mem_lineMark, cutLines_idem]
  · intro rule hrule hoccurs
    obtain ⟨marks, hmarks, rfl⟩ := List.mem_map.mp hrule
    exact h ⟨marks, hmarks, hoccurs⟩

end Language

/-- What a line comment says has no effect.  Comments are removed from a text
    as from the text with its lines cut before their marks; if no complete
    block comment is left there, that is all that is removed; and two texts
    whose lines are the same up to their marks have the same outline, apart
    from the text as given. -/
theorem lineComments_without_effect (language : Language) (text : String) :
    stripComments language text.toList
        = stripComments language (language.withoutLineComments text.toList)
      ∧ (¬ language.HasBlockComment (language.withoutLineComments text.toList) →
          stripComments language text.toList = language.withoutLineComments text.toList)
      ∧ ∀ other : String,
          language.withoutLineComments other.toList = language.withoutLineComments text.toList →
          Outline.ofText language other = { Outline.ofText language text with given := other } := by
  refine ⟨(language.stripComments_withoutLineComments _).symm,
    Language.stripComments_eq_withoutLineComments, fun other hsame => ?_⟩
  -- Both texts are stripped as the one text that they agree on.
  have hcode : stripComments language other.toList = stripComments language text.toList := by
    rw [← language.stripComments_withoutLineComments other.toList, hsame,
      language.stripComments_withoutLineComments]
  have hlines : (Text.splitAt '\n' other.toList).length
      = (Text.splitAt '\n' text.toList).length := by
    rw [← length_splitAt_cutLines language.lineMark.toList other.toList,
      ← length_splitAt_cutLines language.lineMark.toList text.toList]
    exact congrArg (fun t => (Text.splitAt '\n' t).length) hsame
  simp only [Outline.ofText, hcode, hlines]

end SnippetScope
