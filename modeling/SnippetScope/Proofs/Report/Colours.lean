/-
  SnippetScope.Proofs.Report.Colours

  Colours change no text of a report.  Everything that a report does to the
  texts it is given (joining, centring, upper-casing, cutting into lines) brings
  in no escape character, so that every span of a report on texts without them
  is free of them, too.  The main statement is that a report in colours is
  without its sequences the report without colours (`colours_change_no_text`).
-/
import SnippetScope.Command.Analyze
import SnippetScope.Proofs.Report.Joined
import SnippetScope.Proofs.Report.Sequences
import SnippetScope.Proofs.Text.Lines
import SnippetScope.Proofs.Unicode.UpperCase

namespace SnippetScope.Report

open Command (Format)

/-! ## Texts without escape characters -/

section

variable {a b : String} {text line : List Char} {texts : List String}

@[simp] theorem escapeFree_append : EscapeFree (a ++ b) ↔ EscapeFree a ∧ EscapeFree b := by
  rw [EscapeFree, String.toList_append, List.mem_append, not_or]
  exact Iff.rfl

@[simp] theorem escapeFree_ofList :
    EscapeFree (String.ofList text) ↔ escapeCharacter ∉ text := by
  rw [EscapeFree, String.toList_ofList]

/-- A number is written with digits only. -/
@[simp] theorem escapeFree_repr (n : Nat) : EscapeFree n.repr := by
  rw [Nat.repr, escapeFree_ofList]
  intro hmem
  have hdigit : escapeCharacter.isDigit = true :=
    Nat.isDigit_of_mem_toDigits (by omega) (by omega) hmem
  exact absurd hdigit (by decide)

theorem escapeFree_repeated (n : Nat) {c : Char} (h : c ≠ escapeCharacter) :
    EscapeFree (repeated n c) := by
  rw [repeated, escapeFree_ofList, List.mem_replicate]
  rintro ⟨-, rfl⟩
  exact h rfl

theorem escapeFree_centred (width : Nat) (h : EscapeFree a) : EscapeFree (centred width a) := by
  have hspaces : ∀ n, EscapeFree (repeated n ' ') := fun n => escapeFree_repeated n (by decide)
  rw [centred, escapeFree_append, escapeFree_append]
  exact ⟨⟨hspaces _, h⟩, hspaces _⟩

theorem escapeFree_listed (h : ∀ text ∈ texts, EscapeFree text) : EscapeFree (listed texts) := by
  have hparts : ∀ part ∈ texts.map String.toList, ∀ c ∈ part, c ≠ escapeCharacter := by
    intro part hpart c hc
    obtain ⟨text, htext, rfl⟩ := List.mem_map.mp hpart
    rintro rfl
    exact h text htext hc
  have hcomma : ∀ c ∈ ", ".toList, c ≠ escapeCharacter := by
    have hfree : EscapeFree ", " := by decide
    rintro c hc rfl
    exact hfree hc
  rw [EscapeFree, listed, String.toList_intercalate]
  intro hmem
  exact Text.forall_mem_intercalate hcomma hparts _ hmem rfl

/-- The escape character is no letter's upper-case form. -/
theorem not_mem_upperCase (h : escapeCharacter ∉ text) :
    escapeCharacter ∉ Unicode.upperCase text :=
  fun hmem => h (Unicode.mem_of_mem_upperCase (by decide) hmem)

theorem not_mem_of_mem_lines (h : EscapeFree a) (hline : line ∈ Text.lines a.toList) :
    escapeCharacter ∉ line :=
  fun hmem => h (Text.subset_of_mem_lines hline hmem)

end

/-! ## Spans without escape characters -/

section

variable {a b : List Span} {text : String}

@[simp] theorem allFree_nil : AllFree [] :=
  List.forall_mem_nil _

@[simp] theorem allFree_cons {span : Span} :
    AllFree (span :: a) ↔ EscapeFree span.text ∧ AllFree a :=
  List.forall_mem_cons

@[simp] theorem allFree_append : AllFree (a ++ b) ↔ AllFree a ∧ AllFree b :=
  List.forall_mem_append

theorem allFree_flatMap {α : Type} {items : List α} {spans : α → List Span}
    (h : ∀ item ∈ items, AllFree (spans item)) : AllFree (items.flatMap spans) := by
  intro span hspan
  obtain ⟨item, hitem, hspan⟩ := List.mem_flatMap.mp hspan
  exact h item hitem span hspan

@[simp] theorem allFree_emptyLine : AllFree emptyLine := by
  decide

@[simp] theorem allFree_plainLine : AllFree (plainLine text) ↔ EscapeFree text := by
  simp +decide [plainLine]

end

/-! ## Documentation -/

theorem subset_of_isPrefixOf? {mark line rest : List Char}
    (h : mark.isPrefixOf? line = some rest) : rest ⊆ line := by
  rw [← List.isPrefixOf?_eq_some_iff_append_eq.mp h]
  exact List.subset_append_right mark rest

/-- The text that a line with a role shows in a style. -/
def LineRole.shown : LineRole → List Char
  | title text | heading text | subheading text => text
  | fence | other => []

/-- A heading is shown without its mark. -/
theorem shown_roleOf_subset (line : List Char) : (roleOf line).shown ⊆ line := by
  rw [roleOf]
  split
  · exact subset_of_isPrefixOf? ‹_›
  · split
    · exact subset_of_isPrefixOf? ‹_›
    · split
      · exact subset_of_isPrefixOf? ‹_›
      · split <;> exact List.nil_subset line

theorem allFree_underline (limit : Nat) (heading : List Char) :
    AllFree (underline limit heading) := by
  rw [underline, allFree_plainLine]
  exact escapeFree_repeated _ (by decide)

theorem allFree_frame {left right : String} (hleft : EscapeFree left) (hright : EscapeFree right) :
    AllFree (frame left right) := by
  rw [frame, allFree_plainLine, escapeFree_append, escapeFree_append]
  exact ⟨⟨hleft, escapeFree_repeated _ (by decide)⟩, hright⟩

theorem allFree_textLine {line : List Char} (h : escapeCharacter ∉ line) :
    AllFree (textLine line) := by
  rw [textLine]
  split
  · rename_i item hitem
    have hfree : escapeCharacter ∉ item := fun hmem => h (subset_of_isPrefixOf? hitem hmem)
    simp +decide [hfree]
  · split
    · exact allFree_emptyLine
    · simp +decide [h]

/-- The induction is on the lines, with the mode left open: inside and outside
    of a block no escape character is brought in. -/
theorem allFree_layoutLines {lines : List (List Char)} (h : ∀ line ∈ lines, escapeCharacter ∉ line)
    (inCode : Bool) : AllFree (layoutLines inCode lines) := by
  induction lines generalizing inCode with
  | nil => exact allFree_nil
  | cons line lines ih =>
      obtain ⟨hline, hlines⟩ := List.forall_mem_cons.mp h
      have hshown : escapeCharacter ∉ (roleOf line).shown :=
        fun hmem => hline (shown_roleOf_subset line hmem)
      rw [layoutLines]
      -- Nothing else about the line matters once its role is known.
      generalize roleOf line = role at hshown ⊢
      cases role with
      | title text =>
          have htext : escapeCharacter ∉ Unicode.upperCase text := not_mem_upperCase hshown
          simp +decide [ih hlines, allFree_underline, htext]
      | heading text =>
          have htext : escapeCharacter ∉ text := hshown
          simp +decide [ih hlines, allFree_underline, htext]
      | subheading text =>
          have htext : escapeCharacter ∉ text := hshown
          simp +decide [ih hlines, htext]
      | fence =>
          have hframe : AllFree (if inCode then frame "└" "┘" else frame "┌" "┐") := by
            split <;> exact allFree_frame (by decide) (by decide)
          exact allFree_append.mpr ⟨hframe, ih hlines _⟩
      | other =>
          have hother : AllFree (if inCode then plainLine ("│ " ++ String.ofList line)
              else textLine line) := by
            split
            · simp +decide [hline]
            · exact allFree_textLine hline
          exact allFree_append.mpr ⟨hother, ih hlines inCode⟩

theorem allFree_layout {documentation title : String} (hdocumentation : EscapeFree documentation)
    (htitle : EscapeFree title) : AllFree (layout documentation title) := by
  have hlines : ∀ line ∈ Text.lines documentation.toList, escapeCharacter ∉ line :=
    fun line hline => not_mem_of_mem_lines hdocumentation hline
  simp +decide [layout, escapeFree_centred _ htitle, allFree_layoutLines hlines]

/-! ## Reports -/

/-- What a report shows of an analysis holds no escape character. -/
structure AnalysisFree (a : Analysis) : Prop where
  path : ∀ path ∈ a.path, EscapeFree path
  functions : ∀ name ∈ a.outline.functions, EscapeFree name
  containers : ∀ name ∈ a.outline.containers, EscapeFree name

/-- The texts for a snippet hold no escape character. -/
structure DocumentsFree (d : Docs.Documents) : Prop where
  documentation : EscapeFree d.documentation.text
  refactoring : EscapeFree d.refactoring.text
  improvements : EscapeFree d.improvements.text

theorem escapeFree_subjectName {a : Analysis} (h : AnalysisFree a) :
    EscapeFree (subjectName a) := by
  rw [subjectName]
  cases hpath : a.path with
  | none => decide
  | some path => exact h.path path hpath

theorem escapeFree_displayName (language : Language) : EscapeFree language.displayName := by
  cases language <;> decide

theorem escapeFree_text_timeSpan (time : TimeClass) : EscapeFree (timeSpan time).text := by
  cases time <;> decide

theorem escapeFree_text_listedOr {absence : String} {texts : List String}
    (habsence : EscapeFree absence) (htexts : ∀ text ∈ texts, EscapeFree text) :
    EscapeFree (listedOr absence texts).text := by
  rw [listedOr]
  split
  · exact habsence
  · exact escapeFree_listed htexts

theorem allFree_analysisSpans {a : Analysis} (h : AnalysisFree a) : AllFree (analysisSpans a) := by
  have hstructures : ∀ title ∈ a.structures.kinds.map (·.title), EscapeFree title := by
    intro title htitle
    obtain ⟨kind, -, rfl⟩ := List.mem_map.mp htitle
    cases kind <;> decide
  have hspace : EscapeFree a.complexity.space.label := by
    cases a.complexity.space <;> decide
  have hfunctions : EscapeFree (listedOr "none" a.outline.functions).text :=
    escapeFree_text_listedOr (by decide) h.functions
  have hlisted : EscapeFree (listedOr "none detected" (a.structures.kinds.map (·.title))).text :=
    escapeFree_text_listedOr (by decide) hstructures
  have hcontainers : AllFree (if a.outline.containers.isEmpty then []
      else label "Containers: " ++ plainLine (listed a.outline.containers)) := by
    split
    · exact allFree_nil
    · simp +decide [escapeFree_listed h.containers]
  refine allFree_append.mpr ⟨?_, hcontainers⟩
  simp +decide [escapeFree_subjectName h, escapeFree_displayName, escapeFree_text_timeSpan,
    hspace, hfunctions, hlisted]

theorem allFree_indented {text : String} (h : EscapeFree text) : AllFree (indented text) := by
  apply allFree_flatMap
  intro line hline
  simp +decide [not_mem_of_mem_lines h hline]

theorem allFree_documentSpans {d : Docs.Documents} (h : DocumentsFree d) :
    AllFree (documentSpans d) := by
  have hnote : EscapeFree (originNote d.documentation.origin) := by
    cases d.documentation.origin <;> decide
  have hlayout : AllFree (layout d.documentation.text "Code Documentation") :=
    allFree_layout h.documentation (by decide)
  simp +decide [documentSpans, hnote, hlayout, allFree_indented h.refactoring,
    allFree_indented h.improvements]

theorem allFree_totalSpans (analyses : List Analysis) : AllFree (totalSpans analyses) := by
  simp +decide [totalSpans, escapeFree_text_timeSpan]

theorem allFree_titleSpans : AllFree titleSpans := by
  decide

theorem allFree_prettySpans {analyses : List Analysis} {documents : List Docs.Documents}
    (hanalyses : ∀ a ∈ analyses, AnalysisFree a) (hdocuments : ∀ d ∈ documents, DocumentsFree d) :
    AllFree (prettySpans analyses documents) := by
  have hparts : AllFree ((withDocuments analyses documents).flatMap fun p =>
      analysisSpans p.1 ++ (p.2.map documentSpans).getD [] ++ emptyLine) := by
    apply allFree_flatMap
    rintro ⟨a, d⟩ hp
    obtain ⟨ha, hd⟩ := mem_of_mem_withDocuments hp
    have hshown : AllFree ((d.map documentSpans).getD []) := by
      cases d with
      | none => exact allFree_nil
      | some d => exact allFree_documentSpans (hdocuments d (hd d rfl))
    simp [allFree_analysisSpans (hanalyses a ha), hshown]
  have htotals : AllFree
      (if analyses.length > 1 then totalSpans analyses ++ emptyLine else []) := by
    split
    · simp [allFree_totalSpans]
    · exact allFree_nil
  rw [prettySpans, allFree_append]
  refine ⟨allFree_titleSpans, ?_⟩
  split
  · decide
  · exact allFree_append.mpr ⟨hparts, htotals⟩

/-- Colours change no text.  A report for reading in a terminal on texts
    without escape characters is, once its sequences are gone, the one without
    colours, and so is documentation that is laid out; reports in the other forms
    are the same from the start. -/
theorem colours_change_no_text :
    (∀ (analyses : List Analysis) (documents : List Docs.Documents),
      (∀ a ∈ analyses, AnalysisFree a) → (∀ d ∈ documents, DocumentsFree d) →
        withoutSequences (Format.pretty.report true analyses documents).toList
          = (Format.pretty.report false analyses documents).toList)
    ∧ (∀ documentation title : String, EscapeFree documentation → EscapeFree title →
        withoutSequences (layoutText true documentation title).toList
          = (layoutText false documentation title).toList)
    ∧ ∀ format : Format, format ≠ .pretty →
        ∀ (analyses : List Analysis) (documents : List Docs.Documents),
          format.report true analyses documents = format.report false analyses documents := by
  refine ⟨?_, ?_, ?_⟩
  · intro analyses documents hanalyses hdocuments
    exact withoutSequences_writeSpans (allFree_prettySpans hanalyses hdocuments)
  · intro documentation title hdocumentation htitle
    exact withoutSequences_writeSpans (allFree_layout hdocumentation htitle)
  · intro format hformat analyses documents
    cases format with
    | pretty => exact absurd rfl hformat
    | json => rfl
    | markdown => rfl

/-- An analysis of a function that pushes a value. -/
def pushAnalysis : Analysis where
  path := some "push.py"
  language := .python
  scores := [(.python, 2)]
  outline :=
    { language := .python
      given := "def push(xs, x):\n    xs.append(x)"
      stripped := "def push(xs, x):\n    xs.append(x)"
      lines := 2
      functions := ["push"]
      variableNames := []
      loops := []
      conditionals := []
      types := []
      imports := []
      sequences := 0
      containers := [] }
  structures := .empty
  complexity := ⟨.constant, .constant, 0, 0, 1, 0⟩

/-- Texts for that analysis, with characters as they follow an escape character
    in a sequence. -/
def pushDocuments : Docs.Documents :=
  ⟨⟨"# Push\n\n```\n[0m\n```\n", .model⟩, ⟨"[1;36m", .model⟩, ⟨"- m\n", .fallback⟩⟩

theorem colours_change_no_text_push :
    ((∀ a ∈ [pushAnalysis], AnalysisFree a) ∧ (∀ d ∈ [pushDocuments], DocumentsFree d)
      ∧ EscapeFree pushDocuments.documentation.text ∧ EscapeFree "Push" ∧ Format.json ≠ .pretty)
    ∧ withoutSequences (Format.pretty.report true [pushAnalysis] [pushDocuments]).toList
      = (Format.pretty.report false [pushAnalysis] [pushDocuments]).toList
    ∧ withoutSequences (layoutText true pushDocuments.documentation.text "Push").toList
      = (layoutText false pushDocuments.documentation.text "Push").toList
    ∧ Format.json.report true [pushAnalysis] [pushDocuments]
      = Format.json.report false [pushAnalysis] [pushDocuments] := by
  have hanalyses : ∀ a ∈ [pushAnalysis], AnalysisFree a := by
    intro a hmem
    rw [List.mem_singleton.mp hmem]
    exact ⟨by decide, by decide, by decide⟩
  have hdocuments : ∀ d ∈ [pushDocuments], DocumentsFree d := by
    intro d hmem
    rw [List.mem_singleton.mp hmem]
    exact ⟨by decide, by decide, by decide⟩
  obtain ⟨hpretty, hlayout, hother⟩ := colours_change_no_text
  exact ⟨⟨hanalyses, hdocuments, by decide, by decide, by decide⟩,
    hpretty _ _ hanalyses hdocuments, hlayout _ _ (by decide) (by decide),
    hother .json (by decide) _ _⟩

end SnippetScope.Report
