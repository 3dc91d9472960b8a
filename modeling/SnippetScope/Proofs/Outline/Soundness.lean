/-
  SnippetScope.Proofs.Outline.Soundness

  All that an outline lists comes from the text without its comments.  Functions,
  variables and types have words for their names, which therefore hold nothing that
  ends a line or a quotation in a report (`wordIn_of_mem_namesIn`).  Imports are parts
  of the text without blanks at their ends.  Loop heads and branch heads are listed as
  they are written, and each stands behind the one before it (`exists_written`).
-/
import SnippetScope.Proofs.Outline.Names
import SnippetScope.Proofs.Pattern.Listing

namespace SnippetScope.Outline

/-! ## Words -/

/-- Characters that mean something to a report around a name: line breaks, quotes,
    backticks and parentheses. -/
def reportMarks : List Char := "\n\r\"'`()".toList

theorem isWord_eq_false_of_mem_reportMarks {c : Char} (h : c ∈ reportMarks) :
    Unicode.isWord c = false := by
  have hall : (reportMarks.all fun mark => !Unicode.isWord mark) = true := by decide +kernel
  have hc := List.all_eq_true.mp hall c h
  simpa using hc

/-- A word that stands in the text and holds neither blanks nor marks. -/
structure WordIn (text : List Char) (name : String) : Prop where
  isName : IsName name
  not_blank : ∀ c ∈ name.toList, Unicode.isBlank c = false
  no_marks : ∀ c ∈ name.toList, c ∉ reportMarks
  stands : name.toList <:+: text

theorem wordIn_of_mem_namesIn {pattern : Pattern} (hpattern : pattern.NamesWords)
    {text : List Char} {name : String} (h : name ∈ namesIn pattern text) : WordIn text name where
  isName := isName_of_mem_namesIn hpattern h
  not_blank := (isName_of_mem_namesIn hpattern h).not_blank
  no_marks := by
    intro c hc hmark
    have hword := (isName_of_mem_namesIn hpattern h).isWord c hc
    rw [isWord_eq_false_of_mem_reportMarks hmark] at hword
    cases hword
  stands := infix_of_mem_namesIn h

/-! ## Heads -/

/-- The texts stand in a text in their order and without overlap. -/
def StandInOrder (text : List Char) (parts : List String) : Prop :=
  ∃ placed, parts.map String.toList = placed.map Prod.snd ∧ Pattern.StandApart text placed

theorem exists_written (pattern : Pattern) (text : List Char) :
    StandInOrder text (writtenIn pattern text) := by
  obtain ⟨placed, hstand, htexts⟩ := Pattern.exists_standApart pattern text
  refine ⟨placed, ?_, hstand⟩
  rw [← htexts, writtenIn, List.map_map]
  apply List.map_congr_left
  intro m _
  exact String.toList_ofList

/-! ## All that is listed -/

/-- What an outline lists stands in the text without its comments: words for functions,
    variables and types, parts without blanks at their ends for imports, and the heads
    of loops and of branches one behind the other. -/
theorem listed_from_stripped (language : Language) (text : String) :
    let outline := ofText language text
    let code := outline.stripped.toList
    (∀ name ∈ outline.functions ++ outline.variableNames ++ outline.types, WordIn code name)
      ∧ (∀ name ∈ outline.imports, Text.Trimmed name.toList ∧ name.toList <:+: code)
      ∧ StandInOrder code outline.loops
      ∧ StandInOrder code outline.conditionals := by
  intro outline code
  have hcode : code = stripComments language text.toList := String.toList_ofList
  rw [hcode]
  refine ⟨?_, ?_, exists_written _ _, exists_written _ _⟩
  · intro name hname
    rw [List.mem_append, List.mem_append] at hname
    rcases hname with (hfunction | hvariable) | htype
    · exact wordIn_of_mem_namesIn language.namesWords_functions hfunction
    · exact wordIn_of_mem_namesIn language.namesWords_declarations hvariable
    · exact wordIn_of_mem_namesIn language.namesWords_types htype
  · intro name hname
    exact ⟨trimmed_of_mem_namesIn hname, infix_of_mem_namesIn hname⟩

end SnippetScope.Outline
