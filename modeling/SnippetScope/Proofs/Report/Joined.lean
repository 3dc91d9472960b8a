/-
  SnippetScope.Proofs.Report.Joined

  The printed report and the saved one are one text
  (`savedText_eq_markdownText`): going on after the first document with a
  separator and a document each time is joining all documents.
-/
import SnippetScope.Report.Markdown

namespace SnippetScope.Report

theorem markdown_append_markdownRest (a : Analysis) (d : Option Docs.Documents)
    (rest : List (Analysis × Option Docs.Documents)) :
    markdown a d ++ markdownRest rest
      = separator.intercalate (((a, d) :: rest).map fun p => markdown p.1 p.2) := by
  induction rest generalizing a d with
  | nil => simp [markdownRest]
  | cons next rest ih =>
      obtain ⟨b, e⟩ := next
      have hrest := ih b e
      rw [List.map_cons] at hrest ⊢
      rw [List.map_cons, String.intercalate_cons_cons, ← hrest, markdownRest]
      simp only [String.append_assoc]

/-- The printed report joins the documents of the analyses. -/
theorem markdownText_eq_intercalate (analyses : List Analysis) (documents : List Docs.Documents) :
    markdownText analyses documents
      = separator.intercalate
          ((withDocuments analyses documents).map fun p => markdown p.1 p.2) := by
  rw [markdownText]
  split
  · rename_i hnil
    rw [hnil]
    rfl
  · rename_i a d rest hcons
    rw [hcons, markdown_append_markdownRest]

/-- Every analysis is in the report. -/
theorem length_withDocuments (analyses : List Analysis) (documents : List Docs.Documents) :
    (withDocuments analyses documents).length = analyses.length := by
  induction analyses generalizing documents with
  | nil => rfl
  | cons a rest ih =>
      cases documents with
      | nil => rw [withDocuments, List.length_cons, ih, List.length_cons]
      | cons d more => rw [withDocuments, List.length_cons, ih, List.length_cons]

/-- No other analyses and documents come in. -/
theorem mem_of_mem_withDocuments {analyses : List Analysis} {documents : List Docs.Documents}
    {a : Analysis} {d : Option Docs.Documents} (h : (a, d) ∈ withDocuments analyses documents) :
    a ∈ analyses ∧ ∀ document ∈ d, document ∈ documents := by
  induction analyses generalizing documents with
  | nil => cases h
  | cons first rest ih =>
      cases documents with
      | nil =>
          rw [withDocuments, List.mem_cons, Prod.mk.injEq] at h
          rcases h with ⟨rfl, rfl⟩ | h
          · exact ⟨List.mem_cons_self, nofun⟩
          · obtain ⟨ha, hd⟩ := ih h
            exact ⟨List.mem_cons_of_mem first ha, hd⟩
      | cons d' more =>
          rw [withDocuments, List.mem_cons, Prod.mk.injEq] at h
          rcases h with ⟨rfl, rfl⟩ | h
          · refine ⟨List.mem_cons_self, ?_⟩
            rintro document ⟨⟩
            exact List.mem_cons_self
          · obtain ⟨ha, hd⟩ := ih h
            exact ⟨List.mem_cons_of_mem first ha,
              fun document hdocument => List.mem_cons_of_mem d' (hd document hdocument)⟩

/-- With one for each, every analysis has its own documents. -/
theorem withDocuments_eq_zip {analyses : List Analysis} {documents : List Docs.Documents}
    (h : documents.length = analyses.length) :
    withDocuments analyses documents = (analyses.zip documents).map fun p => (p.1, some p.2) := by
  induction analyses generalizing documents with
  | nil => rfl
  | cons a rest ih =>
      cases documents with
      | nil => simp at h
      | cons d more =>
          rw [withDocuments, ih (by simpa using h)]
          rfl

/-- With one for each analysis, the documents are saved as they are printed. -/
theorem savedText_eq_markdownText {analyses : List Analysis} {documents : List Docs.Documents}
    (h : documents.length = analyses.length) :
    savedText analyses documents = markdownText analyses documents := by
  rw [markdownText_eq_intercalate, withDocuments_eq_zip h, List.map_map, savedText]
  rfl

end SnippetScope.Report
