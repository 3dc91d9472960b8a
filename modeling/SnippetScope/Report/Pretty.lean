/-
  SnippetScope.Report.Pretty

  The report for reading in a terminal.
-/
import SnippetScope.Report.Reader
import SnippetScope.Report.Markdown

namespace SnippetScope.Report

/-- The label of a value, with the space in front of it. -/
def label (name : String) : List Span := [.plain "    ", dim name]

/-- Texts with commas between them. -/
def listed (texts : List String) : String := ", ".intercalate texts

/-- A list of texts, or a dimmed word for their absence. -/
def listedOr (absence : String) (texts : List String) : Span :=
  if texts.isEmpty then dim absence else .plain (listed texts)

/-- A time class in a colour that tells how good it is. -/
def timeSpan (time : TimeClass) : Span :=
  match time with
  | .constant => strongColoured .green time.label
  | .linear => coloured .yellow time.label
  | .linearithmic => strongColoured .yellow time.label
  | .quadratic => coloured .red time.label

/-- The lines on one analysis. -/
def analysisSpans (a : Analysis) : List Span :=
  let o := a.outline
  [.plain "  ", strongColoured .blue (subjectName a), lineEnd]
    ++ label "Language:   " ++ plainLine a.language.displayName
    ++ label "Lines:      " ++ plainLine (toString o.lines)
    ++ label "Functions:  " ++ [listedOr "none" o.functions, lineEnd]
    ++ label "Variables:  " ++ plainLine (toString o.variableNames.length)
    ++ label "Control:    "
    ++ plainLine s!"{o.loops.length} loop(s), {o.conditionals.length} conditional(s)"
    ++ label "Time:       " ++ [timeSpan a.complexity.time, lineEnd]
    ++ label "Space:      " ++ plainLine a.complexity.space.label
    ++ label "Structures: "
    ++ [listedOr "none detected" (a.structures.kinds.map (·.title)), lineEnd]
    ++ (if o.containers.isEmpty then []
        else label "Containers: " ++ plainLine (listed o.containers))

/-- The lines of a text, indented. -/
def indented (text : String) : List Span :=
  (Text.lines text.toList).flatMap fun line => plainLine ("    " ++ String.ofList line)

/-- A note on where a text comes from. -/
def originNote : Docs.Origin → String
  | .model => "(generated by language model)"
  | .fallback => "(generated from templates)"

/-- The lines on the texts for a snippet. -/
def documentSpans (d : Docs.Documents) : List Span :=
  layout d.documentation.text "Code Documentation"
    ++ [.plain "    ", dim (originNote d.documentation.origin), lineEnd]
    ++ emptyLine ++ indented d.refactoring.text
    ++ emptyLine ++ indented d.improvements.text

/-- The name of a total, filled up with spaces. -/
def totalLabel (name : String) : Span :=
  .plain ("    " ++ name ++ repeated (12 - name.length) ' ' ++ " ")

/-- The slower of two time classes. -/
def slower (a b : TimeClass) : TimeClass :=
  if a.rank ≤ b.rank then b else a

/-- The slowest time class of several analyses. -/
def worstTime (analyses : List Analysis) : TimeClass :=
  (analyses.map (·.complexity.time)).foldl slower .constant

/-- The lines on all analyses together. -/
def totalSpans (analyses : List Analysis) : List Span :=
  let sumOf (f : Analysis → Nat) : String := toString ((analyses.map f).foldl (· + ·) 0)
  [.plain "  ", strong "Totals:", lineEnd]
    ++ totalLabel "files" :: plainLine (toString analyses.length)
    ++ totalLabel "lines" :: plainLine (sumOf (·.outline.lines))
    ++ totalLabel "functions" :: plainLine (sumOf (·.outline.functions.length))
    ++ [totalLabel "worst time", timeSpan (worstTime analyses), lineEnd]

/-- The title of the report. -/
def titleSpans : List Span :=
  emptyLine ++ [.plain "  ", strongColoured .cyan "codelens"] ++ plainLine (" v" ++ version)
    ++ emptyLine

/-- The whole report. -/
def prettySpans (analyses : List Analysis) (documents : List Docs.Documents) : List Span :=
  titleSpans ++
    if analyses.isEmpty then
      [.plain "  ", dim "No source files found.", lineEnd] ++ emptyLine
    else
      (withDocuments analyses documents).flatMap (fun p =>
          analysisSpans p.1 ++ (p.2.map documentSpans).getD [] ++ emptyLine)
        ++ (if analyses.length > 1 then totalSpans analyses ++ emptyLine else [])

/-- The printed report. -/
def prettyText (colours : Bool) (analyses : List Analysis) (documents : List Docs.Documents) :
    String :=
  writeSpans colours (prettySpans analyses documents)

/-- The printed documentation. -/
def layoutText (colours : Bool) (documentation title : String) : String :=
  writeSpans colours (layout documentation title)

end SnippetScope.Report
