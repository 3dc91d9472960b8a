/-
  SnippetScope.Proofs.Complexity.LoopHeads

  Loop heads and loop keywords.  The heads that a search finds do not overlap,
  and in C, C++, Java and Python each of them opens with a keyword that the
  estimate counts (`opensWith_loops`).  Two texts side by side hold the keywords
  of both, so there are at least as many keywords as heads
  (`length_loops_le`), and a report that lists loops of a text without comments
  does not take it for faster than they allow (`loops_of_record`).
-/
import SnippetScope.Proofs.Complexity.Appending
import SnippetScope.Proofs.Pattern.Cuts
import SnippetScope.Proofs.Pattern.Ways
import SnippetScope.Report.Record

namespace SnippetScope

namespace Pattern

/-! ## Patterns that open with a word -/

/-- Each way to match the pattern passes over one of the words first. -/
def OpensWith (words : List String) (pattern : Pattern) : Prop :=
  ∀ p q, Leads pattern p q →
    ∃ word ∈ words, ∃ rest, p.place.Spans (word.toList ++ rest) q.place

variable {words : List String} {a b : Pattern}

theorem opensWith_text {word : String} (h : word ∈ words) : OpensWith words (text word) := by
  intro p q hlead
  refine ⟨word, h, [], ?_⟩
  rw [List.append_nil]
  exact (leads_text_iff.mp hlead).1

namespace OpensWith

/-- What follows does not change how a pattern opens. -/
theorem append (h : OpensWith words a) (b : Pattern) : OpensWith words (a ++ b) := by
  intro p q hlead
  obtain ⟨r, hfirst, hsecond⟩ := leads_append_iff.mp hlead
  obtain ⟨word, hword, rest, hopening⟩ := h p r hfirst
  obtain ⟨behind, hbehind⟩ := hsecond.spans
  refine ⟨word, hword, rest ++ behind, ?_⟩
  rw [← List.append_assoc]
  exact hopening.trans hbehind

theorem orElse (ha : OpensWith words a) (hb : OpensWith words b) :
    OpensWith words (a <|> b) := by
  intro p q hlead
  rcases leads_orElse_iff.mp hlead with hfirst | hsecond
  · exact ha p q hfirst
  · exact hb p q hsecond

/-- The text of a match starts with one of the words. -/
theorem exists_word (h : OpensWith words a) {start : Place} {m : Match}
    (hmatch : matchAt? a start = some m) : ∃ word ∈ words, word.toList <+: m.text := by
  obtain ⟨stop, hlead, hspan, -⟩ := exists_leads_of_matchAt hmatch
  obtain ⟨word, hword, rest, hopening⟩ := h _ _ hlead
  have htext : m.text = word.toList ++ rest := hspan.upTo_eq.symm.trans hopening.upTo_eq
  exact ⟨word, hword, rest, htext.symm⟩

end OpensWith

/-! ## Matches and what they hold -/

/-- If two texts side by side hold as many things as both together, and each
    match holds one, there are no more matches than things in the text. -/
theorem Cuts.length_found_le {things : List Char → Nat}
    (hadd : ∀ a b, things a + things b ≤ things (a ++ b)) {pattern : Pattern}
    (hone : ∀ p m, matchAt? pattern p = some m → 1 ≤ things m.text) {p : Place}
    {ps : List Piece} (h : Cuts pattern p ps) :
    (ps.filterMap Piece.found?).length ≤ things p.rest := by
  induction h with
  | done prev => exact Nat.zero_le _
  | @found p q m later hmatch hspan _ _ ih =>
      have hboth := hadd m.text q.rest
      have hfirst := hone p m hmatch
      rw [List.filterMap_cons_some (f := Piece.found?) rfl, List.length_cons, hspan.rest_eq]
      omega
  | @kept prev c rest later _ _ ih =>
      have hboth := hadd [c] rest
      rw [List.singleton_append] at hboth
      rw [List.filterMap_cons_none (f := Piece.found?) rfl]
      exact ih.trans (Nat.le_of_add_left_le hboth)

theorem length_findAll_le {things : List Char → Nat}
    (hadd : ∀ a b, things a + things b ≤ things (a ++ b)) {pattern : Pattern}
    (hone : ∀ p m, matchAt? pattern p = some m → 1 ≤ things m.text) (text : List Char) :
    (findAll pattern text).length ≤ things text :=
  (cuts_pieces pattern text).length_found_le hadd hone

end Pattern

/-! ## Loop heads -/

namespace Complexity

open Constructs (headed)

/-- The words whose occurrences are counted as loops. -/
def loopWords : List String := ["for", "while"]

/-- A text that starts with one of the words has a loop keyword. -/
theorem one_le_loopKeywords {word : String} (hword : word ∈ loopWords) {text : List Char}
    (h : word.toList <+: text) : 1 ≤ loopKeywords text := by
  obtain ⟨rest, rfl⟩ := h
  have hone : ∀ word ∈ loopWords, loopKeywords word.toList = 1 := by decide
  have hboth := loopKeywords_add_le word.toList rest
  rw [hone word hword] at hboth
  omega

/-- The languages in which every loop opens with one of the words. -/
def countedLanguages : List Language := [.c, .cpp, .java, .python]

theorem opensWith_headed {keyword : String} (h : keyword ∈ loopWords) :
    Pattern.OpensWith loopWords (headed keyword) :=
  ((Pattern.opensWith_text h).append _).append _

theorem opensWith_loops {language : Language} (h : language ∈ countedLanguages) :
    Pattern.OpensWith loopWords language.constructs.loops := by
  have hfor : "for" ∈ loopWords := by decide
  have hwhile : "while" ∈ loopWords := by decide
  have hbraced : Pattern.OpensWith loopWords (headed "for" <|> headed "while") :=
    (opensWith_headed hfor).orElse (opensWith_headed hwhile)
  cases language with
  | c => exact hbraced
  | cpp => exact hbraced
  | java => exact hbraced
  | python =>
      refine .orElse ?_ ((Pattern.opensWith_text hwhile).append _)
      exact (((((Pattern.opensWith_text hfor).append _).append _).append _).append _).append _
  | go => exact absurd h (by decide)
  | rust => exact absurd h (by decide)

/-- No text lists more loops than it has keywords once its comments are gone. -/
theorem length_loops_le {language : Language} (h : language ∈ countedLanguages) (text : String) :
    (Outline.ofText language text).loops.length
      ≤ loopKeywords (stripComments language text.toList) := by
  have hone : ∀ p m, language.constructs.loops.matchAt? p = some m → 1 ≤ loopKeywords m.text := by
    intro p m hmatch
    obtain ⟨word, hword, hstarts⟩ := (opensWith_loops h).exists_word hmatch
    exact one_le_loopKeywords hword hstarts
  calc (Outline.ofText language text).loops.length
      = (language.constructs.loops.findAll (stripComments language text.toList)).length :=
        List.length_map _
    _ ≤ loopKeywords (stripComments language text.toList) :=
        Pattern.length_findAll_le loopKeywords_add_le hone _

/-! ## Time classes -/

theorem timeClass_ne_constant {loops : Nat} (h : 1 ≤ loops) (depth : Nat) :
    timeClass loops depth ≠ .constant := by
  have hrank := rank_timeClass_le h (Nat.zero_le depth)
  intro hconstant
  rw [hconstant] at hrank
  exact absurd hrank (by decide)

theorem timeClass_of_several {loops : Nat} (h : 2 ≤ loops) (depth : Nat) :
    timeClass loops depth = .linearithmic ∨ timeClass loops depth = .quadratic := by
  have hrank := rank_timeClass_le h (Nat.zero_le depth)
  cases htime : timeClass loops depth with
  | constant => exact absurd (htime ▸ hrank) (by decide)
  | linear => exact absurd (htime ▸ hrank) (by decide)
  | linearithmic => exact .inl rfl
  | quadratic => exact .inr rfl

end Complexity

theorem TimeClass.label_injective : Function.Injective TimeClass.label := by
  intro a b h
  cases a <;> cases b <;> simp_all [TimeClass.label]

/-! ## Reports -/

namespace Report

open Complexity (countedLanguages)

/-- The estimate in a record is that of the text as given. -/
theorem loopKeywords_of_record (settings : Settings) (source : Source)
    (documents : Option Docs.Documents) :
    (AnalysisRecord.ofAnalysis (.ofSource settings source) documents).complexity.time
      = (Complexity.timeClass (Complexity.loopKeywords source.text.toList)
          (Complexity.braceDepth source.text.toList)).label :=
  rfl

/-- In C, C++, Java and Python a text has at least as many loop keywords, once
    its comments are gone, as loops are listed for it.  The report on a text
    without comments therefore never names constant time beside a loop, nor
    anything faster than `O(n log n)` beside two of them. -/
theorem loops_of_record {language : Language} (h : language ∈ countedLanguages)
    (text : String) :
    (Outline.ofText language text).loops.length
        ≤ Complexity.loopKeywords (stripComments language text.toList)
      ∧ (stripComments language text.toList = text.toList →
          ∀ settings source documents, source.text = text →
            source.resolveLanguage settings = language →
            let record := AnalysisRecord.ofAnalysis (.ofSource settings source) documents
            record.loops = (Outline.ofText language text).loops.length
              ∧ (1 ≤ record.loops → record.complexity.time ≠ TimeClass.constant.label)
              ∧ (2 ≤ record.loops → record.complexity.time = TimeClass.linearithmic.label
                  ∨ record.complexity.time = TimeClass.quadratic.label)) := by
  have hloops := Complexity.length_loops_le h text
  refine ⟨hloops, ?_⟩
  rintro hplain settings source documents rfl rfl record
  rw [hplain] at hloops
  have hlisted : record.loops
      = (Outline.ofText (source.resolveLanguage settings) source.text).loops.length := rfl
  have htime := loopKeywords_of_record settings source documents
  refine ⟨hlisted, fun hone => ?_, fun htwo => ?_⟩
  · have hclass := Complexity.timeClass_ne_constant (hone.trans hloops)
      (Complexity.braceDepth source.text.toList)
    rw [htime]
    exact fun hlabel => hclass (TimeClass.label_injective hlabel)
  · rw [htime]
    exact (Complexity.timeClass_of_several (htwo.trans hloops) _).imp
      (congrArg TimeClass.label) (congrArg TimeClass.label)

/-- A snippet in Python with two loops. -/
def scanning : Source where
  text := "for x in xs:\n    while x:\n        x = x - 1\n"
  language := some .python

theorem loops_of_record_scanning :
    Language.python ∈ countedLanguages
      ∧ stripComments .python scanning.text.toList = scanning.text.toList
      ∧ (Outline.ofText .python scanning.text).loops.length = 2
      ∧ ((AnalysisRecord.ofAnalysis (.ofSource {} scanning) none).complexity.time = "O(n log n)"
        ∨ (AnalysisRecord.ofAnalysis (.ofSource {} scanning) none).complexity.time = "O(n²)") := by
  have hlanguage : Language.python ∈ countedLanguages := by decide
  have hplain : stripComments .python scanning.text.toList = scanning.text.toList := by
    decide +kernel
  have htwo : (Outline.ofText .python scanning.text).loops.length = 2 := by decide +kernel
  obtain ⟨-, hreport⟩ := loops_of_record hlanguage scanning.text
  obtain ⟨hlisted, -, hseveral⟩ := hreport hplain {} scanning none rfl rfl
  exact ⟨hlanguage, hplain, htwo, hseveral (by rw [hlisted, htwo])⟩

end Report

end SnippetScope
