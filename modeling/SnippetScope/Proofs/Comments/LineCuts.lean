/-
  SnippetScope.Proofs.Comments.LineCuts

  How lines are cut in a text that is put together of two.  It depends on the
  last line of the first text: if no mark starts there, both are cut for
  themselves (`cutLines_append_of_startsNowhere`); behind a mark, the second
  one loses all that is left of the line (`cutLines_append_of_marked`).
-/
import Mathlib.Data.List.TakeWhile
import SnippetScope.Proofs.Comments.LineComments
import SnippetScope.Proofs.Pattern.First

namespace SnippetScope

open Pattern (StartsNowhere)

/-! ## The last line -/

/-- What stands behind the last line feed. -/
def lastLine (text : List Char) : List Char :=
  (Text.splitAt '\n' text).getLast (Text.splitAt_ne_nil '\n' text)

theorem lastLine_of_not_mem {line : List Char} (h : '\n' ∉ line) : lastLine line = line := by
  simp only [lastLine, Text.splitAt_of_not_mem h, List.getLast_singleton]

theorem lastLine_append {line : List Char} (h : '\n' ∉ line) (rest : List Char) :
    lastLine (line ++ '\n' :: rest) = lastLine rest := by
  simp only [lastLine, Text.splitAt_append h]
  exact List.getLast_cons (Text.splitAt_ne_nil '\n' rest)

/-- The last line can only grow at its front. -/
theorem lastLine_suffix (front text : List Char) : lastLine text <:+ lastLine (front ++ text) := by
  induction front using Text.parts_induction '\n' with
  | last line hline =>
      rcases Text.not_mem_or_exists_first '\n' text with htext | ⟨first, rest, hfirst, rfl⟩
      · have hboth : '\n' ∉ line ++ text := by simp [hline, htext]
        rw [lastLine_of_not_mem htext, lastLine_of_not_mem hboth]
        exact List.suffix_append line text
      · have hboth : '\n' ∉ line ++ first := by simp [hline, hfirst]
        rw [← List.append_assoc, lastLine_append hfirst, lastLine_append hboth]
  | more line rest hline ih =>
      rw [List.append_assoc, List.cons_append, lastLine_append hline]
      exact ih

/-! ## Two texts -/

variable {mark text behind : List Char}

theorem cutLines_nil (mark : List Char) : cutLines mark [] = [] :=
  cutLines_of_not_mem List.not_mem_nil

theorem cutLines_lineFeed (mark rest : List Char) :
    cutLines mark ('\n' :: rest) = '\n' :: cutLines mark rest :=
  cutLines_append List.not_mem_nil rest

/-- A text in which no mark starts is not cut. -/
theorem cutLines_append_of_plain (h : StartsNowhere mark text behind) :
    cutLines mark (text ++ behind) = text ++ cutLines mark behind := by
  induction text with
  | nil => rfl
  | cons c text ih => rw [List.cons_append, cutLines_cons h.head, ih h.tail, List.cons_append]

theorem cutLines_append_of_startsNowhere (h : StartsNowhere mark (lastLine text) behind) :
    cutLines mark (text ++ behind) = cutLines mark text ++ cutLines mark behind := by
  induction text using Text.parts_induction '\n' with
  | last line hline =>
      rw [lastLine_of_not_mem hline] at h
      have halone : StartsNowhere mark line [] := fun rest hne hrest hmark =>
        h rest hne hrest (by simpa using hmark.trans (List.prefix_append (rest ++ []) behind))
      have hself : cutLines mark line = line := by
        simpa [cutLines_nil] using cutLines_append_of_plain halone
      rw [cutLines_append_of_plain h, hself]
  | more line rest hline ih =>
      rw [lastLine_append hline] at h
      rw [List.append_assoc, List.cons_append, cutLines_append hline, cutLines_append hline, ih h,
        List.append_assoc, List.cons_append]

/-- What follows a mark does not change where its line is cut. -/
theorem beforeMark_append (h : mark <:+: text) (behind : List Char) :
    beforeMark mark (text ++ behind) = beforeMark mark text := by
  induction text with
  | nil =>
      obtain rfl : mark = [] := by simpa using h
      cases behind <;> simp [beforeMark]
  | cons c text ih =>
      by_cases hmark : mark <+: c :: text
      · rw [beforeMark_of_isPrefix hmark,
          beforeMark_of_isPrefix (hmark.trans (List.prefix_append _ behind))]
      · have htext : mark <:+: text := (List.infix_cons_iff.mp h).resolve_left hmark
        have hlonger : ¬ mark <+: c :: (text ++ behind) := fun hm =>
          hmark (List.prefix_of_prefix_length_le hm (List.prefix_append (c :: text) behind)
            (htext.length_le.trans (by simp)))
        rw [List.cons_append, beforeMark_cons_of_not_isPrefix hlonger, ih htext,
          beforeMark_cons_of_not_isPrefix hmark]

/-- What is left of a text behind its first line. -/
def afterLine (text : List Char) : List Char :=
  text.dropWhile (· ≠ '\n')

theorem afterLine_of_not_mem {line : List Char} (h : '\n' ∉ line) : afterLine line = [] := by
  rw [afterLine, List.dropWhile_eq_nil_iff]
  intro c hc
  simpa using fun heq : c = '\n' => h (heq ▸ hc)

theorem afterLine_append {line : List Char} (h : '\n' ∉ line) (rest : List Char) :
    afterLine (line ++ rest) = afterLine rest := by
  refine List.dropWhile_append_of_pos fun c hc => ?_
  simpa using fun heq : c = '\n' => h (heq ▸ hc)

theorem afterLine_cons (rest : List Char) : afterLine ('\n' :: rest) = '\n' :: rest :=
  List.dropWhile_cons_of_neg (by simp)

theorem afterLine_cases (text : List Char) :
    afterLine text = [] ∨ ∃ rest, afterLine text = '\n' :: rest := by
  rcases Text.not_mem_or_exists_first '\n' text with h | ⟨line, rest, hline, rfl⟩
  · exact .inl (afterLine_of_not_mem h)
  · exact .inr ⟨rest, by rw [afterLine_append hline, afterLine_cons]⟩

theorem cutLines_append_of_marked (h : mark <:+: lastLine text) (behind : List Char) :
    cutLines mark (text ++ behind) = cutLines mark text ++ cutLines mark (afterLine behind) := by
  induction text using Text.parts_induction '\n' with
  | last line hline =>
      rw [lastLine_of_not_mem hline] at h
      rw [cutLines_of_not_mem hline]
      rcases Text.not_mem_or_exists_first '\n' behind with hbehind | ⟨first, rest, hfirst, rfl⟩
      · have hboth : '\n' ∉ line ++ behind := by simp [hline, hbehind]
        rw [cutLines_of_not_mem hboth, beforeMark_append h, afterLine_of_not_mem hbehind,
          cutLines_nil, List.append_nil]
      · have hboth : '\n' ∉ line ++ first := by simp [hline, hfirst]
        rw [← List.append_assoc, cutLines_append hboth, beforeMark_append h,
          afterLine_append hfirst, afterLine_cons, cutLines_lineFeed]
  | more line rest hline ih =>
      rw [lastLine_append hline] at h
      rw [List.append_assoc, List.cons_append, cutLines_append hline, cutLines_append hline, ih h,
        List.append_assoc, List.cons_append]

/-! ## What stands within lines -/

/-- A text without the separator stands on one side of it. -/
theorem infix_append_cons_iff {word before behind : List Char} {sep : Char} (h : sep ∉ word) :
    word <:+: before ++ sep :: behind ↔ word <:+: before ∨ word <:+: behind := by
  rw [List.infix_append_iff, List.infix_cons_iff]
  have hempty : ∀ part, sep ∉ part → part <+: sep :: behind → part = [] := by
    intro part hpart hle
    rcases List.prefix_cons_iff.mp hle with hnil | ⟨rest, rfl, -⟩
    · exact hnil
    · simp at hpart
  constructor
  · rintro (hbefore | (hword | hbehind) | ⟨first, second, rfl, hfirst, hsecond⟩)
    · exact .inl hbefore
    · rw [hempty word h hword]
      exact .inl (List.nil_infix)
    · exact .inr hbehind
    · obtain rfl := hempty second (fun hmem => h (List.mem_append_right first hmem)) hsecond
      rw [List.append_nil]
      exact .inl hfirst.isInfix
  · rintro (hbefore | hbehind)
    · exact .inl hbefore
    · exact .inr (.inl (.inr hbehind))

/-- What stands in one line of the cut text stands in the text. -/
theorem infix_of_infix_cutLines {word : List Char} (hword : '\n' ∉ word)
    (h : word <:+: cutLines mark text) : word <:+: text := by
  induction text using Text.parts_induction '\n' with
  | last line hline =>
      rw [cutLines_of_not_mem hline] at h
      exact h.trans (beforeMark_isPrefix mark line).isInfix
  | more line rest hline ih =>
      rw [cutLines_append hline, infix_append_cons_iff hword] at h
      rw [infix_append_cons_iff hword]
      exact h.imp (fun hfirst => hfirst.trans (beforeMark_isPrefix mark line).isInfix) ih

end SnippetScope
