/-
  SnippetScope.Proofs.Outline.Names

  The names of functions, variables and types in an outline are words: in every
  language the patterns that find them name nothing else (`namesWords_functions`,
  `namesWords_declarations`, `namesWords_types`).  Whatever a pattern names, what is
  listed of it is a part of the text without blanks at its ends
  (`trimmed_of_mem_namesIn`, `infix_of_mem_namesIn`).
-/
import SnippetScope.Outline
import SnippetScope.Proofs.Pattern.Names
import SnippetScope.Proofs.Text.Blank

namespace SnippetScope

open Unicode (isWord)

/-- Only words can give the name of a match. -/
def Pattern.NamesWords (pattern : Pattern) : Prop :=
  ∀ inner ∈ pattern.namings, inner = Constructs.word

/-- A word: not empty, and made of word characters. -/
structure IsName (name : String) : Prop where
  ne_nil : name.toList ≠ []
  isWord : ∀ c ∈ name.toList, Unicode.isWord c = true

theorem IsName.not_blank {name : String} (h : IsName name) :
    ∀ c ∈ name.toList, Unicode.isBlank c = false :=
  fun c hc => Unicode.isBlank_eq_false_of_isWord (h.isWord c hc)

namespace Constructs

theorem namesWords_bracedFunction : bracedFunction.NamesWords := by
  simp [Pattern.NamesWords, bracedFunction, nameWord, parenthesized, gap, blanks, mark, word]

theorem namesWords_typedVariable : typedVariable.NamesWords := by
  simp [Pattern.NamesWords, typedVariable, nameWord, gap, blanks, word]

theorem namesWords_declared (keyword : String) : (declared keyword).NamesWords := by
  simp [Pattern.NamesWords, declared, nameWord, blanks, word]

end Constructs

namespace Language

open Constructs (nameWord parenthesized gap blanks mark word)

theorem namesWords_functions (language : Language) :
    language.constructs.functions.NamesWords := by
  cases language with
  | cpp => exact Constructs.namesWords_bracedFunction
  | c => exact Constructs.namesWords_bracedFunction
  | python =>
      simp [Pattern.NamesWords, constructs, Constructs.python, nameWord, parenthesized, gap,
        blanks, mark, word]
  | java =>
      simp [Pattern.NamesWords, constructs, Constructs.java, nameWord, parenthesized, gap, blanks,
        mark, word]
  | go =>
      simp [Pattern.NamesWords, constructs, Constructs.go, nameWord, parenthesized, gap, blanks,
        mark, word]
  | rust =>
      simp [Pattern.NamesWords, constructs, Constructs.rust, nameWord, parenthesized, gap, blanks,
        mark, word]

theorem namesWords_declarations (language : Language) :
    language.constructs.declarations.NamesWords := by
  cases language with
  | cpp => exact Constructs.namesWords_typedVariable
  | c => exact Constructs.namesWords_typedVariable
  | python => simp [Pattern.NamesWords, constructs, Constructs.python, nameWord, gap, mark, word]
  | java =>
      simpa [Pattern.NamesWords, constructs, Constructs.java, gap]
        using Constructs.namesWords_typedVariable
  | go =>
      -- Two ways to declare a variable, each with a name of its own.
      intro inner hinner
      simp only [constructs, Constructs.go, Pattern.namings_orElse, List.mem_append] at hinner
      rcases hinner with hdeclared | hassigned
      · exact Constructs.namesWords_declared "var" inner hdeclared
      · simpa [nameWord, gap, word] using hassigned
  | rust =>
      simp [Pattern.NamesWords, constructs, Constructs.rust, nameWord, blanks, word]

theorem namesWords_types (language : Language) : language.constructs.types.NamesWords := by
  have hdeclared := Constructs.namesWords_declared
  cases language with
  | cpp => exact hdeclared "class"
  | c => exact hdeclared "struct"
  | python => exact hdeclared "class"
  | rust => exact hdeclared "struct"
  | java => simpa [Pattern.NamesWords, constructs, Constructs.java, gap] using hdeclared "class"
  | go => simpa [Pattern.NamesWords, constructs, Constructs.go, blanks] using hdeclared "type"

end Language

namespace Outline

/-- What is listed is the name of a match, without the blanks around it. -/
theorem exists_of_mem_namesIn {pattern : Pattern} {text : List Char} {name : String}
    (h : name ∈ namesIn pattern text) :
    ∃ m ∈ pattern.findAll text, ∃ found, m.name = some found ∧ name.toList = Text.trim found
      ∧ Text.trim found ≠ [] := by
  obtain ⟨m, hm, hgiven⟩ := List.mem_filterMap.mp h
  cases hname : m.name with
  | none =>
      rw [givenName?, hname] at hgiven
      cases hgiven
  | some found =>
      rw [givenName?, hname, Option.map_some, Option.bind_some] at hgiven
      by_cases hempty : (Text.trim found).isEmpty = true
      · rw [if_pos hempty] at hgiven
        cases hgiven
      · rw [if_neg hempty] at hgiven
        obtain rfl := Option.some.inj hgiven
        exact ⟨m, hm, found, hname, String.toList_ofList, by simpa using hempty⟩

theorem trimmed_of_mem_namesIn {pattern : Pattern} {text : List Char} {name : String}
    (h : name ∈ namesIn pattern text) : Text.Trimmed name.toList := by
  obtain ⟨m, -, found, -, htrim, hne⟩ := exists_of_mem_namesIn h
  rw [htrim]
  exact Text.trimmed_trim hne

/-- What is listed stands in the text. -/
theorem infix_of_mem_namesIn {pattern : Pattern} {text : List Char} {name : String}
    (h : name ∈ namesIn pattern text) : name.toList <:+: text := by
  obtain ⟨m, hm, found, hname, htrim, -⟩ := exists_of_mem_namesIn h
  rw [htrim]
  exact (Text.trim_infix found).trans (Pattern.name_infix_of_mem_findAll hm hname)

/-- A pattern that names words only finds words. -/
theorem isName_of_mem_findAll {pattern : Pattern} (hpattern : pattern.NamesWords)
    {text name : List Char} {m : Pattern.Match} (hm : m ∈ pattern.findAll text)
    (hname : m.name = some name) : IsName (String.ofList name) := by
  -- The match has been found somewhere, and its name leads through a word.
  obtain ⟨-, start, -, hmatch, -⟩ := (Pattern.cuts_pieces pattern text).matchAt_of_mem_found hm
  obtain ⟨-, inner, hinner, p, q, hlead, hspan⟩ := Pattern.exists_leads_of_name hmatch hname
  rw [hpattern inner hinner, Constructs.word] at hlead
  obtain ⟨hleast, hword⟩ := Pattern.run_of_leads hlead hspan
  refine ⟨?_, ?_⟩
  · rw [String.toList_ofList]
    exact List.length_pos_iff.mp hleast
  · rw [String.toList_ofList]
    exact hword

/-- Its names are listed as they stand in the text. -/
theorem namesIn_eq {pattern : Pattern} (hpattern : pattern.NamesWords) (text : List Char) :
    namesIn pattern text = ((pattern.findAll text).filterMap (·.name)).map String.ofList := by
  rw [namesIn, List.map_filterMap]
  refine List.filterMap_congr fun m hm => ?_
  cases hname : m.name with
  | none => rw [givenName?, hname, Option.map_none, Option.bind_none, Option.map_none]
  | some name =>
      have hisName := isName_of_mem_findAll hpattern hm hname
      have htrim : Text.trim name = name := by
        apply Text.trim_eq_self
        simpa using hisName.not_blank
      have hne : name.isEmpty = false := by
        simpa using hisName.ne_nil
      rw [givenName?, hname, Option.map_some, Option.bind_some, htrim, hne]
      rfl

/-- What a pattern that names words only finds are names. -/
theorem isName_of_mem_namesIn {pattern : Pattern} (hpattern : pattern.NamesWords)
    {text : List Char} {name : String} (h : name ∈ namesIn pattern text) : IsName name := by
  rw [namesIn_eq hpattern] at h
  obtain ⟨found, hfound, rfl⟩ := List.mem_map.mp h
  obtain ⟨m, hm, hname⟩ := List.mem_filterMap.mp hfound
  exact isName_of_mem_findAll hpattern hm hname

theorem isName_of_mem_functions {language : Language} {text name : String}
    (h : name ∈ (ofText language text).functions) : IsName name :=
  isName_of_mem_namesIn language.namesWords_functions h

theorem isName_of_mem_types {language : Language} {text name : String}
    (h : name ∈ (ofText language text).types) : IsName name :=
  isName_of_mem_namesIn language.namesWords_types h

end Outline

end SnippetScope
