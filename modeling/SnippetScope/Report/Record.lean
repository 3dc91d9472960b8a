/-
  SnippetScope.Report.Record

  The report as a JSON document: its records, how they are written and how
  they are read back.
-/
import SnippetScope.Analysis
import SnippetScope.Docs.Documenter
import SnippetScope.Json
import SnippetScope.Json.Record

namespace SnippetScope.Report

/-- The version of the program that reports name. -/
def version : String := "0.1.0"

/-! ## Records -/

/-- A structure with its sample as shown. -/
structure StructureRecord where
  kind : String
  sample : List String
  deriving DecidableEq, Repr

/-- The estimated complexity. -/
structure ComplexityRecord where
  time : String
  space : String
  loops : Nat
  depth : Nat
  deriving DecidableEq, Repr

/-- A text and its origin. -/
structure TextRecord where
  text : String
  origin : String
  deriving DecidableEq, Repr

/-- The texts for a snippet. -/
structure DocumentsRecord where
  documentation : TextRecord
  refactoring : TextRecord
  improvements : TextRecord
  deriving DecidableEq, Repr

/-- One analysis. -/
structure AnalysisRecord where
  path : Option String
  language : String
  lines : Nat
  functions : List String
  variableNames : List String
  loops : Nat
  conditionals : Nat
  types : List String
  imports : List String
  containers : List String
  structures : List StructureRecord
  complexity : ComplexityRecord
  documents : Option DocumentsRecord
  deriving DecidableEq, Repr

/-- The whole report. -/
structure ReportRecord where
  version : String
  filesAnalyzed : Nat
  analyses : List AnalysisRecord
  deriving DecidableEq, Repr

/-! ## From analyses to records -/

/-- The record of a text. -/
def TextRecord.ofGenerated (generated : Docs.Generated) : TextRecord :=
  ⟨generated.text, generated.origin.name⟩

/-- The record of the texts for a snippet. -/
def DocumentsRecord.ofDocuments (documents : Docs.Documents) : DocumentsRecord where
  documentation := .ofGenerated documents.documentation
  refactoring := .ofGenerated documents.refactoring
  improvements := .ofGenerated documents.improvements

/-- The record of an analysis, with its texts if there are any. -/
def AnalysisRecord.ofAnalysis (a : Analysis) (documents : Option Docs.Documents) :
    AnalysisRecord where
  path := a.path
  language := a.language.name
  lines := a.outline.lines
  functions := a.outline.functions
  variableNames := a.outline.variableNames
  loops := a.outline.loops.length
  conditionals := a.outline.conditionals.length
  types := a.outline.types
  imports := a.outline.imports
  containers := a.outline.containers
  structures := a.structures.entries.map fun s => ⟨s.kind.name, s.sample.shown⟩
  complexity := ⟨a.complexity.time.label, a.complexity.space.label, a.complexity.loops,
    a.complexity.depth⟩
  documents := documents.map .ofDocuments

/-- Each analysis with the texts at its position; texts beyond the last
    analysis are left out. -/
def withDocuments : List Analysis → List Docs.Documents → List (Analysis × Option Docs.Documents)
  | [], _ => []
  | a :: rest, [] => (a, none) :: withDocuments rest []
  | a :: rest, d :: more => (a, some d) :: withDocuments rest more

/-- The report on a list of analyses. -/
def ReportRecord.build (analyses : List Analysis) (documents : List Docs.Documents) :
    ReportRecord where
  version := Report.version
  filesAnalyzed := analyses.length
  analyses := (withDocuments analyses documents).map fun p => .ofAnalysis p.1 p.2

/-! ## Writing -/

/-- A list of texts as an array. -/
def textsJson (texts : List String) : Json :=
  .array (texts.map .string)

/-- A structure as an object. -/
def StructureRecord.toJson (r : StructureRecord) : Json :=
  .object [("kind", .string r.kind), ("sample", textsJson r.sample)]

/-- A complexity as an object. -/
def ComplexityRecord.toJson (r : ComplexityRecord) : Json :=
  .object [("time", .string r.time), ("space", .string r.space),
    ("loop_occurrences", .number r.loops), ("max_nesting", .number r.depth)]

/-- A text as an object. -/
def TextRecord.toJson (r : TextRecord) : Json :=
  .object [("text", .string r.text), ("origin", .string r.origin)]

/-- The texts for a snippet as an object. -/
def DocumentsRecord.toJson (r : DocumentsRecord) : Json :=
  .object [("documentation", r.documentation.toJson), ("refactoring", r.refactoring.toJson),
    ("improvements", r.improvements.toJson)]

/-- A member that is left out if it has no value. -/
def optionalMember (name : String) : Option Json → List (String × Json)
  | some value => [(name, value)]
  | none => []

/-- An analysis as an object. -/
def AnalysisRecord.toJson (r : AnalysisRecord) : Json :=
  .object (optionalMember "path" (r.path.map .string) ++ [
    ("language", .string r.language),
    ("lines", .number r.lines),
    ("functions", textsJson r.functions),
    ("variables", textsJson r.variableNames),
    ("loops", .number r.loops),
    ("conditionals", .number r.conditionals),
    ("types", textsJson r.types),
    ("imports", textsJson r.imports),
    ("containers", textsJson r.containers),
    ("structures", .array (r.structures.map (·.toJson))),
    ("complexity", r.complexity.toJson)]
    ++ optionalMember "documents" (r.documents.map (·.toJson)))

/-- The whole report as an object. -/
def ReportRecord.toJson (r : ReportRecord) : Json :=
  .object [("version", .string r.version), ("files_analyzed", .number r.filesAnalyzed),
    ("analyses", .array (r.analyses.map (·.toJson)))]

/-- The printed report: the document and a line feed. -/
def jsonText (analyses : List Analysis) (documents : List Docs.Documents) : String :=
  (ReportRecord.build analyses documents).toJson.pretty ++ "\n"

/-! ## Reading -/

open Json (Written)
open Json.Written (required withDefault nullable list? text? natural? fields?)

/-- Reads a structure. -/
def StructureRecord.ofWritten? (w : Written) : Option StructureRecord := do
  match ← fields? ["kind", "sample"] w with
  | [kind, sample] =>
    return { kind := ← required text? kind
             sample := ← required (list? text?) sample }
  | _ => none

/-- Reads a complexity. -/
def ComplexityRecord.ofWritten? (w : Written) : Option ComplexityRecord := do
  match ← fields? ["time", "space", "loop_occurrences", "max_nesting"] w with
  | [time, space, loops, depth] =>
    return { time := ← required text? time
             space := ← required text? space
             loops := ← required natural? loops
             depth := ← required natural? depth }
  | _ => none

/-- Reads a text. -/
def TextRecord.ofWritten? (w : Written) : Option TextRecord := do
  match ← fields? ["text", "origin"] w with
  | [text, origin] =>
    return { text := ← required text? text
             origin := ← required text? origin }
  | _ => none

/-- Reads the texts for a snippet. -/
def DocumentsRecord.ofWritten? (w : Written) : Option DocumentsRecord := do
  match ← fields? ["documentation", "refactoring", "improvements"] w with
  | [documentation, refactoring, improvements] =>
    return { documentation := ← required TextRecord.ofWritten? documentation
             refactoring := ← required TextRecord.ofWritten? refactoring
             improvements := ← required TextRecord.ofWritten? improvements }
  | _ => none

/-- The fields of an analysis. -/
def analysisFields : List String :=
  ["path", "language", "lines", "functions", "variables", "loops", "conditionals", "types",
    "imports", "containers", "structures", "complexity", "documents"]

/-- Reads an analysis.  Its path and its texts may be missing or `null`. -/
def AnalysisRecord.ofWritten? (w : Written) : Option AnalysisRecord := do
  match ← fields? analysisFields w with
  | [path, language, lines, functions, variableNames, loops, conditionals, types, imports,
      containers, structures, complexity, documents] =>
    return { path := ← withDefault none (nullable text?) path
             language := ← required text? language
             lines := ← required natural? lines
             functions := ← required (list? text?) functions
             variableNames := ← required (list? text?) variableNames
             loops := ← required natural? loops
             conditionals := ← required natural? conditionals
             types := ← required (list? text?) types
             imports := ← required (list? text?) imports
             containers := ← required (list? text?) containers
             structures := ← required (list? StructureRecord.ofWritten?) structures
             complexity := ← required ComplexityRecord.ofWritten? complexity
             documents := ← withDefault none (nullable DocumentsRecord.ofWritten?) documents }
  | _ => none

/-- Reads a report. -/
def ReportRecord.ofWritten? (w : Written) : Option ReportRecord := do
  match ← fields? ["version", "files_analyzed", "analyses"] w with
  | [version, filesAnalyzed, analyses] =>
    return { version := ← required text? version
             filesAnalyzed := ← required natural? filesAnalyzed
             analyses := ← required (list? AnalysisRecord.ofWritten?) analyses }
  | _ => none

/-- Reads a printed report. -/
def ReportRecord.read? (text : String) : Option ReportRecord :=
  (Json.readText? text).bind ReportRecord.ofWritten?

end SnippetScope.Report
