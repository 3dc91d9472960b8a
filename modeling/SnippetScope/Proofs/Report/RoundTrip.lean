/-
  SnippetScope.Proofs.Report.RoundTrip

  Reports read back as they were printed (`read?_jsonText`): each record is
  found in the object that was written for it, and its fields in the members.
-/
import SnippetScope.Proofs.Json.Fields
import SnippetScope.Report.Record

namespace SnippetScope.Report

open Json (asWritten text?_string natural?_number list?_array fields?_object
  withDefault_nullable)
open Json.Written (required withDefault nullable fields? list? text?)

/-! ## Records inside of an analysis -/

theorem list?_textsJson (texts : List String) :
    list? text? (asWritten (textsJson texts)) = some texts :=
  list?_array text?_string texts

theorem StructureRecord.ofWritten?_toJson (r : StructureRecord) :
    ofWritten? (asWritten r.toJson) = some r := by
  have hfields : fields? ["kind", "sample"] (asWritten r.toJson)
      = some [some (asWritten (.string r.kind)), some (asWritten (textsJson r.sample))] :=
    fields?_object (.refl _) (by decide)
  rw [ofWritten?, hfields, Option.bind_eq_bind, Option.bind_some]
  simp only [required, text?_string, list?_textsJson]
  rfl

theorem ComplexityRecord.ofWritten?_toJson (r : ComplexityRecord) :
    ofWritten? (asWritten r.toJson) = some r := by
  have hfields : fields? ["time", "space", "loop_occurrences", "max_nesting"] (asWritten r.toJson)
      = some [some (asWritten (.string r.time)), some (asWritten (.string r.space)),
        some (asWritten (.number r.loops)), some (asWritten (.number r.depth))] :=
    fields?_object (.refl _) (by decide)
  rw [ofWritten?, hfields, Option.bind_eq_bind, Option.bind_some]
  simp only [required, text?_string, natural?_number]
  rfl

theorem TextRecord.ofWritten?_toJson (r : TextRecord) :
    ofWritten? (asWritten r.toJson) = some r := by
  have hfields : fields? ["text", "origin"] (asWritten r.toJson)
      = some [some (asWritten (.string r.text)), some (asWritten (.string r.origin))] :=
    fields?_object (.refl _) (by decide)
  rw [ofWritten?, hfields, Option.bind_eq_bind, Option.bind_some]
  simp only [required, text?_string]
  rfl

theorem DocumentsRecord.ofWritten?_toJson (r : DocumentsRecord) :
    ofWritten? (asWritten r.toJson) = some r := by
  have hfields : fields? ["documentation", "refactoring", "improvements"] (asWritten r.toJson)
      = some [some (asWritten r.documentation.toJson), some (asWritten r.refactoring.toJson),
        some (asWritten r.improvements.toJson)] :=
    fields?_object (.refl _) (by decide)
  rw [ofWritten?, hfields, Option.bind_eq_bind, Option.bind_some]
  simp only [required, TextRecord.ofWritten?_toJson]
  rfl

/-! ## Analyses -/

theorem map_fst_optionalMember (name : String) (value : Option Json) :
    ((optionalMember name value).map Prod.fst).Sublist [name] := by
  cases value with
  | none => exact List.nil_sublist _
  | some value => exact .refl _

/-- The fields of an analysis: the path and the texts may be missing. -/
theorem fields?_analysis (r : AnalysisRecord) :
    fields? analysisFields (asWritten r.toJson)
      = some [r.path.map fun p => asWritten (.string p), some (asWritten (.string r.language)),
        some (asWritten (.number r.lines)), some (asWritten (textsJson r.functions)),
        some (asWritten (textsJson r.variableNames)), some (asWritten (.number r.loops)),
        some (asWritten (.number r.conditionals)), some (asWritten (textsJson r.types)),
        some (asWritten (textsJson r.imports)), some (asWritten (textsJson r.containers)),
        some (asWritten (.array (r.structures.map (·.toJson)))),
        some (asWritten r.complexity.toJson), r.documents.map fun d => asWritten d.toJson] := by
  rw [AnalysisRecord.toJson, fields?_object ?_ (by decide)]
  · cases r.path with
    | none =>
        cases r.documents with
        | none => rfl
        | some documents => rfl
    | some path =>
        cases r.documents with
        | none => rfl
        | some documents => rfl
  · rw [List.map_append, List.map_append]
    exact .append (.append (map_fst_optionalMember "path" _) (.refl _))
      (map_fst_optionalMember "documents" _)

theorem AnalysisRecord.ofWritten?_toJson (r : AnalysisRecord) :
    ofWritten? (asWritten r.toJson) = some r := by
  have hstructures : list? StructureRecord.ofWritten?
      (asWritten (.array (r.structures.map (·.toJson)))) = some r.structures :=
    list?_array StructureRecord.ofWritten?_toJson r.structures
  have hpath : withDefault none (nullable text?) (r.path.map fun p => asWritten (.string p))
      = some r.path :=
    withDefault_nullable text?_string (fun _ => by simp) r.path
  have hdocuments : withDefault none (nullable DocumentsRecord.ofWritten?)
      (r.documents.map fun d => asWritten d.toJson) = some r.documents :=
    withDefault_nullable DocumentsRecord.ofWritten?_toJson
      (fun _ => by simp [DocumentsRecord.toJson]) r.documents
  rw [ofWritten?, fields?_analysis, Option.bind_eq_bind, Option.bind_some]
  simp only [required, hpath, hdocuments, text?_string, natural?_number, list?_textsJson,
    hstructures, ComplexityRecord.ofWritten?_toJson]
  rfl

/-! ## Reports -/

theorem ReportRecord.ofWritten?_toJson (r : ReportRecord) :
    ofWritten? (asWritten r.toJson) = some r := by
  have hfields : fields? ["version", "files_analyzed", "analyses"] (asWritten r.toJson)
      = some [some (asWritten (.string r.version)), some (asWritten (.number r.filesAnalyzed)),
        some (asWritten (.array (r.analyses.map (·.toJson))))] :=
    fields?_object (.refl _) (by decide)
  have hanalyses : list? AnalysisRecord.ofWritten?
      (asWritten (.array (r.analyses.map (·.toJson)))) = some r.analyses :=
    list?_array AnalysisRecord.ofWritten?_toJson r.analyses
  rw [ofWritten?, hfields, Option.bind_eq_bind, Option.bind_some]
  simp only [required, text?_string, natural?_number, hanalyses]
  rfl

/-- A printed report is one whole document, from which the very same report is
    read back. -/
theorem read?_jsonText (analyses : List Analysis) (documents : List Docs.Documents) :
    ReportRecord.read? (jsonText analyses documents)
      = some (ReportRecord.build analyses documents) := by
  rw [ReportRecord.read?, jsonText, Json.readText?_pretty, Option.bind_some,
    ReportRecord.ofWritten?_toJson]

end SnippetScope.Report
