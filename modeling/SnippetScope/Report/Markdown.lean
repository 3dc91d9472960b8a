/-
  SnippetScope.Report.Markdown

  The report as a markdown document, one part for each analysis.
-/
import SnippetScope.Report.Record

namespace SnippetScope.Report

open Docs (code fence)

/-- A text without the blanks at its end. -/
def withoutTrailing (text : String) : String :=
  String.ofList (Text.trimRight text.toList)

/-- What an analysis is about: its file, or just a snippet. -/
def subjectName (a : Analysis) : String :=
  a.path.getD "snippet"

/-- A block of plain text. -/
def textBlock (text : String) : String :=
  fence ++ "text\n" ++ text ++ "\n" ++ fence

/-- A row of the table of metrics. -/
def metricRow (name value : String) : String :=
  "| " ++ name ++ " | " ++ value ++ " |\n"

/-- The table of metrics. -/
def metricTable (a : Analysis) : String :=
  "| Metric | Value |\n|---|---|\n"
    ++ metricRow "Language" a.language.displayName
    ++ metricRow "Lines" (toString a.outline.lines)
    ++ metricRow "Functions" (toString a.outline.functions.length)
    ++ metricRow "Variables" (toString a.outline.variableNames.length)
    ++ metricRow "Loops" (toString a.outline.loops.length)
    ++ metricRow "Conditionals" (toString a.outline.conditionals.length)
    ++ metricRow "Time complexity" a.complexity.time.label
    ++ metricRow "Space complexity" a.complexity.space.label

/-- A line on a structure. -/
def structureLine (s : SampledStructure) : String :=
  "- **" ++ s.kind.title ++ "**: " ++ ", ".intercalate s.sample.shown ++ "\n"

/-- The lines on data structures and containers. -/
def structureLines (a : Analysis) : String :=
  (if a.structures.isEmpty then "No data structure signals found.\n" else "")
    ++ String.join (a.structures.entries.map structureLine)
    ++ (if a.outline.containers.isEmpty then ""
        else "\nContainers used: " ++ ", ".intercalate a.outline.containers ++ "\n")

/-- The texts for a snippet. -/
def documentLines (d : Docs.Documents) : String :=
  "\n" ++ withoutTrailing d.documentation.text ++ "\n"
    ++ "\n## Refactoring\n\n" ++ textBlock (withoutTrailing d.refactoring.text) ++ "\n"
    ++ "\n## Suggested Improvements\n\n" ++ withoutTrailing d.improvements.text ++ "\n"

/-- The markdown document of one analysis, with its texts if there are any. -/
def markdown (a : Analysis) (documents : Option Docs.Documents) : String :=
  "# codelens report: " ++ subjectName a ++ "\n\n"
    ++ metricTable a
    ++ "\n## Data Structures\n\n" ++ structureLines a
    ++ "\n## Complexity Breakdown\n\n" ++ textBlock a.breakdown ++ "\n"
    ++ (documents.map documentLines).getD ""

/-- What stands between the documents of two analyses. -/
def separator : String := "\n---\n\n"

/-- The documents of the analyses after the first, each after a separator. -/
def markdownRest : List (Analysis × Option Docs.Documents) → String
  | [] => ""
  | (a, d) :: rest => separator ++ markdown a d ++ markdownRest rest

/-- The printed report. -/
def markdownText (analyses : List Analysis) (documents : List Docs.Documents) : String :=
  match withDocuments analyses documents with
  | [] => ""
  | (a, d) :: rest => markdown a d ++ markdownRest rest

/-- The report that is saved: every analysis with its own texts. -/
def savedText (analyses : List Analysis) (documents : List Docs.Documents) : String :=
  separator.intercalate ((analyses.zip documents).map fun p => markdown p.1 (some p.2))

end SnippetScope.Report
