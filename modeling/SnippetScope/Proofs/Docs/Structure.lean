/-
  SnippetScope.Proofs.Docs.Structure

  The structure of the template's documentation does not depend on what the
  snippet looks like (`documentation_structure`): the sections stand in their
  order, one block of code shows how to run the snippet, and each function has
  one heading and one line for its parameters.
-/
import SnippetScope.Proofs.Docs.Template
import SnippetScope.Structure.Detection
import Mathlib.Data.List.Forall2

namespace SnippetScope.Docs

open Text (OnOneLine)

namespace Subject

variable {s : Subject}

/-! ## All lines -/

theorem onOneLine_opening : ∀ line ∈ s.opening, OnOneLine line.toList := by
  have hlanguage : OnOneLine s.languageName.toList := onOneLine_displayName _
  have hmark : OnOneLine "# ".toList := .ofList (by decide)
  have htitle := onOneLine_append (onOneLine_append hmark hlanguage)
    (.ofList (by decide) : OnOneLine " Code Documentation".toList)
  have hlines := onOneLine_append (.ofList (by decide) : OnOneLine "**Lines of Code**: ".toList)
    (Text.onOneLine_toString s.outline.lines)
  have hfunctions := onOneLine_append (.ofList (by decide) : OnOneLine "**Functions**: ".toList)
    (Text.onOneLine_toString s.outline.functions.length)
  have hvariables := onOneLine_append (.ofList (by decide) : OnOneLine "**Variables**: ".toList)
    (Text.onOneLine_toString s.outline.variableNames.length)
  rw [opening, List.forall_mem_cons, List.forall_mem_cons, List.forall_mem_cons,
    List.forall_mem_cons, List.forall_mem_singleton]
  exact ⟨htitle, .ofList (by decide), hlines, hfunctions, hvariables⟩

theorem starts_title (language : String) :
    ∀ mark ∈ structuralMarks, starts mark ("# " ++ language ++ " Code Documentation") = false := by
  have htitle : ("# " ++ language ++ " Code Documentation").toList
      = '#' :: ' ' :: (language.toList ++ " Code Documentation".toList) := by
    rw [String.toList_append, String.toList_append]
    rfl
  rw [forall_structuralMarks, starts, starts, starts, htitle]
  simp [List.isPrefixOf]

/-- The title and the counts below it mark nothing. -/
theorem filter_opening {mark : String} (hmark : mark ∈ structuralMarks) :
    s.opening.filter (starts mark) = [] := by
  obtain ⟨c, hc, -, hstar⟩ := exists_head_of_mem_structuralMarks mark hmark
  have htitle := starts_title s.languageName mark hmark
  -- The counts start with a star, as no mark does.
  have hcount : ∀ label n : String, label.toList.head? = some '*' →
      starts mark (label ++ n) = false := by
    intro label n hlabel
    obtain ⟨chars, hchars⟩ := List.head?_eq_some_iff.mp hlabel
    apply starts_of_head_ne hc
    rw [String.toList_append, hchars]
    exact fun heq => hstar (Option.some.inj heq).symm
  have hempty : starts mark "" = false := starts_of_head_ne hc (by simp)
  have hlines := hcount "**Lines of Code**: " (toString s.outline.lines) rfl
  have hfunctions := hcount "**Functions**: " (toString s.outline.functions.length) rfl
  have hvariables := hcount "**Variables**: " (toString s.outline.variableNames.length) rfl
  have hopening : ∀ line ∈ s.opening, starts mark line = false := by
    rw [opening, List.forall_mem_cons, List.forall_mem_cons, List.forall_mem_cons,
      List.forall_mem_cons, List.forall_mem_singleton]
    exact ⟨htitle, hempty, hlines, hfunctions, hvariables⟩
  refine List.filter_eq_nil_iff.mpr fun line hline => ?_
  rw [hopening line hline]
  exact Bool.false_ne_true

/-- Marks stand only in the headings of the sections and in their bodies. -/
theorem filter_documentationLines (h : s.NamesWords) {mark : String}
    (hmark : mark ∈ structuralMarks) :
    s.documentationLines.filter (starts mark)
      = (Section.all.flatMap fun part => sectionHeading part :: s.marked part).filter
          (starts mark) := by
  obtain ⟨c, hc, -, -⟩ := exists_head_of_mem_structuralMarks mark hmark
  have hempty : starts mark "" = false := starts_of_head_ne hc (by simp)
  have hrule : starts mark "---" = false := starts_structuralMarks_ofList (by decide) mark hmark
  have hnote : starts mark "*Generated by codelens (template mode)*" = false :=
    starts_structuralMarks_ofList (by decide) mark hmark
  have hclosing : ["", "---", "*Generated by codelens (template mode)*"].filter (starts mark)
      = [] := by
    simp only [List.filter_cons, hempty, hrule, hnote, Bool.false_eq_true, if_false,
      List.filter_nil]
  rw [documentationLines, List.filter_append, List.filter_append, filter_opening hmark, hclosing,
    List.filter_flatMap, List.filter_flatMap, List.append_nil, List.nil_append]
  -- Section by section, the empty line in front is no mark.
  refine congrArg (List.flatMap · Section.all) (funext fun part => ?_)
  rw [List.filter_cons, hempty, List.filter_cons, filter_body h hmark, List.filter_cons]
  rfl

/-- Each line stays a line. -/
theorem onOneLine_of_mem_documentationLines (h : s.NamesWords) :
    ∀ line ∈ s.documentationLines, OnOneLine line.toList := by
  rw [documentationLines, List.forall_mem_append, List.forall_mem_append]
  have hclosing : ∀ line ∈ ["", "---", "*Generated by codelens (template mode)*"],
      OnOneLine line.toList := by
    rw [List.forall_mem_cons, List.forall_mem_cons, List.forall_mem_singleton]
    exact ⟨.ofList (by decide), .ofList (by decide), .ofList (by decide)⟩
  refine ⟨⟨onOneLine_opening, fun line hline => ?_⟩, hclosing⟩
  obtain ⟨part, -, hline⟩ := List.mem_flatMap.mp hline
  have htitle : OnOneLine ("## " ++ part.title).toList := by
    refine onOneLine_append (.ofList (by decide)) ?_
    cases part <;> exact .ofList (by decide)
  have hall : ∀ line ∈ "" :: ("## " ++ part.title) :: s.body part, OnOneLine line.toList := by
    rw [List.forall_mem_cons, List.forall_mem_cons]
    exact ⟨.ofList (by decide), htitle, onOneLine_body h part⟩
  exact hall line hline

/-! ## Headings and fences -/

/-- What marks the structure, in order. -/
theorem flatMap_marked (s : Subject) :
    (Section.all.flatMap fun part => sectionHeading part :: s.marked part)
      = ["## Purpose", "## Algorithm", "## Functions"] ++ s.functionNames.map functionHeading
        ++ ["## Parameters", "## Return Values", "## Complexity", "## Usage", "```sh", "```",
          "## Improvements"] := by
  have hheadings : Section.all.map sectionHeading = ["## Purpose", "## Algorithm", "## Functions",
      "## Parameters", "## Return Values", "## Complexity", "## Usage", "## Improvements"] := by
    decide
  simp only [Section.all, List.map_cons, List.map_nil, List.cons.injEq] at hheadings
  obtain ⟨h1, h2, h3, h4, h5, h6, h7, h8, -⟩ := hheadings
  simp only [Section.all, List.flatMap_cons, List.flatMap_nil, marked, h1, h2, h3, h4, h5, h6, h7,
    h8, List.cons_append, List.nil_append, List.append_nil]

theorem filter_functionHeadings (names : List String) :
    (names.map functionHeading).filter (starts "## ") = []
      ∧ (names.map functionHeading).filter (starts "### ") = names.map functionHeading
      ∧ (names.map functionHeading).filter (starts "```") = [] := by
  have hchars : ∀ name, (functionHeading name).toList
      = '#' :: '#' :: '#' :: ' ' :: (code (name ++ "()")).toList := by
    intro name
    rw [functionHeading, String.toList_append]
    rfl
  have hstarts : ∀ line ∈ names.map functionHeading,
      starts "## " line = false ∧ starts "### " line = true ∧ starts "```" line = false := by
    intro line hline
    obtain ⟨name, -, rfl⟩ := List.mem_map.mp hline
    rw [starts, starts, starts, hchars]
    simp [List.isPrefixOf]
  refine ⟨List.filter_eq_nil_iff.mpr ?_, List.filter_eq_self.mpr ?_, List.filter_eq_nil_iff.mpr ?_⟩
  · intro line hline
    rw [(hstarts line hline).1]
    exact Bool.false_ne_true
  · intro line hline
    exact (hstarts line hline).2.1
  · intro line hline
    rw [(hstarts line hline).2.2]
    exact Bool.false_ne_true

theorem sectionHeadings_documentationLines (h : s.NamesWords) :
    s.documentationLines.filter (starts "## ")
      = ["## Purpose", "## Algorithm", "## Functions", "## Parameters", "## Return Values",
        "## Complexity", "## Usage", "## Improvements"] := by
  rw [filter_documentationLines h (by decide), flatMap_marked, List.filter_append,
    List.filter_append, (filter_functionHeadings _).1]
  decide

theorem functionHeadings_documentationLines (h : s.NamesWords) :
    s.documentationLines.filter (starts "### ") = s.functionNames.map functionHeading := by
  rw [filter_documentationLines h (by decide), flatMap_marked, List.filter_append,
    List.filter_append, (filter_functionHeadings _).2.1]
  have hfront : ["## Purpose", "## Algorithm", "## Functions"].filter (starts "### ") = [] := by
    decide
  have hbehind : ["## Parameters", "## Return Values", "## Complexity", "## Usage", "```sh", "```",
      "## Improvements"].filter (starts "### ") = [] := by
    decide
  rw [hfront, hbehind, List.nil_append, List.append_nil]

theorem fences_documentationLines (h : s.NamesWords) :
    s.documentationLines.filter (starts "```") = ["```sh", "```"] := by
  rw [filter_documentationLines h (by decide), flatMap_marked, List.filter_append,
    List.filter_append, (filter_functionHeadings _).2.2]
  decide

/-! ## Lines below a heading -/

theorem starts_sectionHeading (part : Section) : starts "## " (sectionHeading part) = true := by
  rw [sectionHeading, starts, String.toList_append]
  exact List.isPrefixOf_iff_prefix.mpr (List.prefix_append _ _)

/-- No line of a section starts like the heading of one. -/
theorem filter_body_sectionHeading (h : s.NamesWords) (part : Section) :
    (s.body part).filter (starts "## ") = [] := by
  rw [filter_body h (by decide)]
  have hfences : ["```sh", "```"].filter (starts "## ") = [] := by decide
  cases part with
  | functions => exact (filter_functionHeadings _).1
  | usage => exact hfences
  | _ => rfl

/-- A section's heading stands in front of its lines, and the next heading
    behind them. -/
theorem exists_documentationLines_eq (s : Subject) {before after : List Section}
    {part next : Section} (hall : Section.all = before ++ part :: next :: after) :
    ∃ front behind, s.documentationLines
      = front ++ sectionHeading part
          :: ((s.body part ++ [""]) ++ sectionHeading next :: behind) := by
  refine ⟨s.opening ++ before.flatMap (fun part => "" :: ("## " ++ part.title) :: s.body part)
      ++ [""], s.body next
      ++ after.flatMap (fun part => "" :: ("## " ++ part.title) :: s.body part)
      ++ ["", "---", "*Generated by codelens (template mode)*"], ?_⟩
  simp [documentationLines, hall, sectionHeading]

/-- Below the heading of a section stand its lines and an empty one. -/
theorem linesBelow_sectionHeading (h : s.NamesWords) {before after : List Section}
    {part next : Section} (hall : Section.all = before ++ part :: next :: after) :
    linesBelow (sectionHeading part) s.documentationLines = s.body part ++ [""] := by
  obtain ⟨front, behind, hlines⟩ := exists_documentationLines_eq s hall
  have hfront : sectionHeading part ∉ front := by
    -- The heading stands behind the front, and no heading stands twice.
    intro hmem
    have hnodup : (s.documentationLines.filter (starts "## ")).Nodup := by
      rw [sectionHeadings_documentationLines h]
      decide
    rw [hlines, List.filter_append, List.filter_cons_of_pos (starts_sectionHeading part)] at hnodup
    have hmem' := List.mem_filter.mpr ⟨hmem, starts_sectionHeading part⟩
    exact (List.nodup_append.mp hnodup).2.2 _ hmem' _ List.mem_cons_self rfl
  have hbody : (s.body part ++ [""]).filter (starts "## ") = [] := by
    rw [List.filter_append, filter_body_sectionHeading h]
    decide
  rw [hlines]
  exact linesBelow_eq hfront hbody (starts_sectionHeading next)

/-- In the section of the parameters each function has one line, or there is
    one line that says that there are none. -/
theorem filter_parameters (h : s.NamesWords) :
    (linesBelow "## Parameters" s.documentationLines).filter (· ≠ "") = s.parameters := by
  have hheading : sectionHeading .parameters = "## Parameters" := by decide
  have hall : Section.all = [.purpose, .algorithm, .functions] ++ .parameters :: .returnValues
      :: [.complexity, .usage, .improvements] := rfl
  have hne : ∀ line ∈ s.parameters, decide (line ≠ "") = true := by
    intro line hline
    rw [decide_eq_true_eq]
    rintro rfl
    have hdash := (bullets_parameters h "" hline).dash
    simp at hdash
  have hempty : [""].filter (· ≠ "") = [] := by decide
  rw [← hheading, linesBelow_sectionHeading h hall, List.filter_append, hempty, List.append_nil]
  exact List.filter_eq_self.mpr hne

/-- Both fences stand in the section that shows how to run the snippet. -/
theorem filter_usage (h : s.NamesWords) :
    (linesBelow "## Usage" s.documentationLines).filter (starts "```") = ["```sh", "```"] := by
  have hheading : sectionHeading .usage = "## Usage" := by decide
  have hall : Section.all = [.purpose, .algorithm, .functions, .parameters, .returnValues,
      .complexity] ++ .usage :: .improvements :: [] := rfl
  have hfences : ["```sh", "```"].filter (starts "```") = ["```sh", "```"] := by decide
  have hempty : [""].filter (starts "```") = [] := by decide
  rw [← hheading, linesBelow_sectionHeading h hall, List.filter_append,
    filter_body h (by decide), marked, hfences, hempty, List.append_nil]

/-- The line on the parameters of a function starts with its name. -/
theorem starts_describeParameters (stripped name : String) :
    starts ("- `" ++ name ++ "`: ") (describeParameters stripped name) = true := by
  have hfront : "- " ++ code name ++ ": " = "- `" ++ name ++ "`: " := by
    rw [← String.toList_inj]
    simp [code, backquote]
  rw [describeParameters, hfront, starts, String.toList_append (s := "- `" ++ name ++ "`: ")]
  exact List.isPrefixOf_iff_prefix.mpr (List.prefix_append _ _)

theorem functionHeading_eq (name : String) :
    functionHeading name = "### `" ++ name ++ "()`" := by
  rw [← String.toList_inj]
  simp [functionHeading, code, backquote]

theorem parameters_of_functionNames_eq_nil (h : s.functionNames = []) :
    s.parameters = ["- None"] := by
  have hnone : s.outline.functions = [] := by
    refine List.eq_nil_iff_forall_not_mem.mpr fun name hname => ?_
    have hmem : name ∈ s.functionNames := List.mem_eraseDups.mpr hname
    rw [h] at hmem
    cases hmem
  rw [parameters, h, hnone]
  rfl

theorem parameters_of_functionNames_ne_nil (h : s.functionNames ≠ []) :
    s.parameters = s.functionNames.map (describeParameters s.outline.stripped) := by
  have hsome : s.outline.functions.isEmpty = false := by
    rw [List.isEmpty_eq_false_iff]
    intro hnil
    rw [functionNames, hnil] at h
    exact h rfl
  rw [parameters, hsome]
  rfl

/-- The only blanks of a documentation are spaces and the ends of its lines. -/
theorem blank_documentation (h : s.NamesWords) :
    ∀ c ∈ s.documentation.toList, Unicode.isBlank c = true → c = ' ' ∨ c = '\n' := by
  intro c hc hblank
  rw [documentation, String.toList_join, List.flatMap_map] at hc
  obtain ⟨line, hline, hc⟩ := List.mem_flatMap.mp hc
  rw [String.toList_append, List.mem_append] at hc
  rcases hc with hc | hc
  · exact .inl (onOneLine_of_mem_documentationLines h line hline c hc hblank)
  · exact .inr (List.mem_singleton.mp hc)

/-! ## The documentation of a text -/

/-- What the documentation of a text is written from. -/
def ofText (language : Language) (text : String) : Subject where
  outline := Outline.ofText language text
  complexity := Estimate.ofText text (Outline.ofText language text)
  structures := StructureSet.ofText text.toList

theorem namesWords_ofText (language : Language) (text : String) :
    (ofText language text).NamesWords where
  functions _ hname := Outline.isName_of_mem_functions hname
  types _ hname := Outline.isName_of_mem_types hname

end Subject

/-- No text can break the structure of its documentation. -/
theorem documentation_structure (language : Language) (text : String) :
    let documentation := (Subject.ofText language text).documentation
    let lines := linesOf documentation
    let names := (Outline.ofText language text).functions.eraseDups
    let parameters := (linesBelow "## Parameters" lines).filter (· ≠ "")
    lines.filter (starts "## ")
        = ["## Purpose", "## Algorithm", "## Functions", "## Parameters", "## Return Values",
          "## Complexity", "## Usage", "## Improvements"]
      ∧ lines.filter (starts "```") = ["```sh", "```"]
      ∧ (linesBelow "## Usage" lines).filter (starts "```") = ["```sh", "```"]
      ∧ lines.filter (starts "### ") = names.map (fun name => "### `" ++ name ++ "()`")
      ∧ (names = [] → parameters = ["- None"])
      ∧ (names ≠ [] →
          List.Forall₂ (fun name line => starts ("- `" ++ name ++ "`: ") line = true)
            names parameters)
      ∧ ∀ c ∈ documentation.toList, Unicode.isBlank c = true → c = ' ' ∨ c = '\n' := by
  have hwords := Subject.namesWords_ofText language text
  intro documentation lines names parameters
  have hlines : lines = (Subject.ofText language text).documentationLines :=
    linesOf_join (Subject.onOneLine_of_mem_documentationLines hwords)
  have hparameters : parameters = (Subject.ofText language text).parameters := by
    rw [← Subject.filter_parameters hwords, ← hlines]
  refine ⟨?_, ?_, ?_, ?_, fun hnil => ?_, fun hne => ?_, Subject.blank_documentation hwords⟩
  · rw [hlines]
    exact Subject.sectionHeadings_documentationLines hwords
  · rw [hlines]
    exact Subject.fences_documentationLines hwords
  · rw [hlines]
    exact Subject.filter_usage hwords
  · rw [hlines, Subject.functionHeadings_documentationLines hwords]
    exact List.map_congr_left fun name _ => Subject.functionHeading_eq name
  · rw [hparameters]
    exact Subject.parameters_of_functionNames_eq_nil hnil
  · rw [hparameters, Subject.parameters_of_functionNames_ne_nil (s := .ofText language text) hne,
      List.forall₂_map_right_iff]
    exact List.forall₂_same.mpr fun name _ => Subject.starts_describeParameters _ name

end SnippetScope.Docs
