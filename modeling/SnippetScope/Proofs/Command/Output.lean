/-
  SnippetScope.Proofs.Command.Output

  What a run prints.  A run that saves the documents and prints them saves what
  it prints (`saved_eq_output`).  The output is all or nothing
  (`output_of_run`): a run that fails prints nothing on the standard output, and
  a report is printed whole.
-/
import SnippetScope.Proofs.Command.Targets
import SnippetScope.Proofs.Report.Joined
import SnippetScope.Proofs.Report.RoundTrip

namespace SnippetScope.Command

variable {options : AnalyzeOptions} {environment : Environment} {colours : Bool}
  {capability : ModelSettings → Docs.Capability} {settings : Settings} {analyses : List Analysis}

/-! ## Saved documents -/

theorem length_documents (h : options.saveDocs.isSome) (model : Docs.Capability) :
    (options.documents model analyses).length = analyses.length := by
  rw [AnalyzeOptions.documents, h, Bool.or_true, if_pos rfl, List.length_map]

/-- The documents are written last, so that nothing is written over them. -/
theorem holds_saved {format : Format} {documents : List Docs.Documents} {path : String}
    (hsave : options.saveDocs = some path)
    (h : (options.finish environment colours format settings analyses documents).exitCode = 0) :
    (options.finish environment colours format settings analyses documents).tree.Holds
      environment.here (targetPath settings path) (Report.savedText analyses documents) := by
  have hlast : ∃ front, options.artifacts settings analyses documents
      = front ++ [⟨.documents, targetPath settings path, Report.savedText analyses documents⟩] := by
    rw [AnalyzeOptions.artifacts, hsave]
    exact ⟨_, rfl⟩
  obtain ⟨front, hsplit⟩ := hlast
  rw [AnalyzeOptions.finish_tree]
  exact holds_writeAll (AnalyzeOptions.failure_of_finish h) hsplit (by simp)

/-- What is saved is what is printed, for the same analyses and documents and
    so for every run that does both. -/
theorem saved_eq_output :
    (∀ (analyses : List Analysis) (documents : List Docs.Documents),
      documents.length = analyses.length →
      Report.savedText analyses documents = Report.markdownText analyses documents)
    ∧ ∀ (options : AnalyzeOptions) (environment : Environment) (colours : Bool)
        (capability : ModelSettings → Docs.Capability) (path : String),
        options.format = "markdown" → options.saveDocs = some path →
        (options.run environment colours capability).exitCode = 0 →
        ∃ settings analyses, options.Gathers environment .markdown settings analyses
          ∧ (analyses ≠ [] →
              (options.run environment colours capability).tree.Holds environment.here
                (targetPath settings path) (options.run environment colours capability).output
              ∧ (environment.tree.LinkFree →
                  (options.run environment colours capability).tree.readText environment.here
                      (targetPath settings path)
                    = .ok (options.run environment colours capability).output)) := by
  refine ⟨fun _ _ => Report.savedText_eq_markdownText, ?_⟩
  intro options environment colours capability path hformat hsave hexit
  have hnamed : Format.ofName? options.format = some .markdown := by
    rw [hformat]
    rfl
  have hends := options.run_ends environment colours capability
  have hfree := hends.linkFree
  generalize options.run environment colours capability = outcome at hends hfree hexit ⊢
  cases hends with
  | refused => cases hexit
  | idle h =>
      obtain rfl := h.eq_of_ofName? hnamed
      exact ⟨_, _, h, fun hsome => absurd rfl hsome⟩
  | finished h hsome =>
      obtain rfl := h.eq_of_ofName? hnamed
      have hwritten := AnalyzeOptions.failure_of_finish hexit
      have hdocuments : options.saveDocs.isSome := by
        rw [hsave]
        rfl
      have hholds := holds_saved hsave hexit
      rw [Report.savedText_eq_markdownText (length_documents hdocuments _)] at hholds
      refine ⟨_, _, h, fun _ => ?_⟩
      rw [(AnalyzeOptions.finish_of_written hwritten).2, Format.report]
      exact ⟨hholds, fun hlinks => (hfree hlinks).readText_of_holds hholds⟩

theorem saved_eq_output_workbench :
    (workbenchOptions.run workbench false noModel).exitCode = 0
      ∧ workbench.tree.LinkFree
      ∧ workbenchAnalyses.length = 2
      ∧ (workbenchOptions.run workbench false noModel).output ≠ ""
      ∧ (workbenchOptions.run workbench false noModel).tree.readText workbench.here
            "./out/docs.md".toList
          = .ok (workbenchOptions.run workbench false noModel).output := by
  obtain ⟨settings, analyses, hgathers, hsaved⟩ := saved_eq_output.2 workbenchOptions workbench
    false noModel "out/docs.md" rfl rfl workbench_exitCode
  obtain ⟨-, rfl, rfl⟩ := (workbench_gathers rfl rfl rfl rfl).unique hgathers
  have houtput : (workbenchOptions.run workbench false noModel).output ≠ "" := by
    rw [workbench_run]
    decide +kernel
  exact ⟨workbench_exitCode, workbench_linkFree, rfl, houtput,
    (hsaved (by decide)).2 workbench_linkFree⟩

/-! ## All or nothing -/

theorem linesText_cons_ne_empty (line : String) (rest : List String) :
    linesText (line :: rest) ≠ "" := by
  simp [linesText, String.join_cons]

/-- A command ends well, or it fails and says so. -/
structure Outcome.Settled (outcome : Outcome) : Prop where
  exitCode : outcome.exitCode = 0 ∨ outcome.exitCode = 2
  silent : outcome.exitCode = 2 → outcome.output = "" ∧ outcome.messages ≠ ""

theorem settled_of_success {outcome : Outcome} (h : outcome.exitCode = 0) : outcome.Settled := by
  refine ⟨.inl h, fun hfail => ?_⟩
  rw [h] at hfail
  cases hfail

theorem settled_of_failure {outcome : Outcome} (h : outcome.exitCode = 2)
    (houtput : outcome.output = "") (hmessages : outcome.messages ≠ "") : outcome.Settled :=
  ⟨.inr h, fun _ => ⟨houtput, hmessages⟩⟩

theorem settled_fail (line : String) (lines : List String) :
    (environment.fail (line :: lines)).Settled :=
  settled_of_failure rfl rfl (linesText_cons_ne_empty line lines)

theorem settled_finish (format : Format) (settings : Settings) (analyses : List Analysis)
    (documents : List Docs.Documents) :
    (options.finish environment colours format settings analyses documents).Settled := by
  cases hfailure : (writeAll environment.here environment.tree
      (options.artifacts settings analyses documents)).failure with
  | none => exact settled_of_success (AnalyzeOptions.finish_of_written hfailure).1
  | some failure =>
      obtain ⟨hexit, houtput, notes, hmessages⟩ := AnalyzeOptions.finish_of_failure hfailure
      refine settled_of_failure hexit houtput ?_
      rw [hmessages]
      cases notes with
      | nil => exact linesText_cons_ne_empty _ _
      | cons note notes => exact linesText_cons_ne_empty _ _

theorem settled_of_ends {outcome : Outcome}
    (hends : options.Ends environment colours capability outcome) : outcome.Settled := by
  cases hends with
  | refused => exact settled_fail _ _
  | idle => exact settled_of_success rfl
  | finished => exact settled_finish _ _ _ _

theorem settled_runInit (environment : Environment) (path : String) :
    (runInit environment path).Settled := by
  unfold runInit
  split
  · exact settled_fail _ _
  · dsimp only
    split
    · exact settled_of_failure rfl rfl (linesText_cons_ne_empty _ _)
    · split
      · exact settled_of_failure rfl rfl (linesText_cons_ne_empty _ _)
      · exact settled_of_success rfl

/-- The report on analyses is read back whole, and it counts them. -/
theorem exists_record (analyses : List Analysis) (documents : List Docs.Documents) :
    ∃ record, Report.jsonText analyses documents = record.toJson.pretty ++ "\n"
      ∧ Report.ReportRecord.read? (Report.jsonText analyses documents) = some record
      ∧ record.filesAnalyzed = record.analyses.length
      ∧ record.analyses.length = analyses.length := by
  have hlength : (Report.ReportRecord.build analyses documents).analyses.length
      = analyses.length := by
    rw [Report.ReportRecord.build, List.length_map, Report.length_withDocuments]
  refine ⟨.build analyses documents, rfl, ?_, hlength.symm, hlength⟩
  rw [Report.ReportRecord.read?, Report.jsonText, Json.readText?_pretty, Option.bind_some,
    Report.ReportRecord.ofWritten?_toJson]

/-- A command ends well, or it fails with nothing but a message.  A run that is
    to report as JSON and ends well has either found nothing to analyse and done
    nothing, or printed one report whole. -/
theorem output_of_run (action : Action) (environment : Environment) (colours : Bool)
    (capability : ModelSettings → Docs.Capability) :
    ((action.run environment colours capability).exitCode = 0
      ∨ (action.run environment colours capability).exitCode = 2)
    ∧ ((action.run environment colours capability).exitCode = 2 →
        (action.run environment colours capability).output = ""
        ∧ (action.run environment colours capability).messages ≠ "")
    ∧ ∀ options, action = .analyze options → options.format = "json" →
        (action.run environment colours capability).exitCode = 0 →
        ((action.run environment colours capability).output = ""
          ∧ (action.run environment colours capability).messages
              = "Warning: no files to analyze\n"
          ∧ (action.run environment colours capability).tree = environment.tree
          ∧ ∃ settings, options.Gathers environment .json settings [])
        ∨ ∃ settings analyses, ∃ record : Report.ReportRecord,
            options.Gathers environment .json settings analyses
            ∧ analyses ≠ []
            ∧ (action.run environment colours capability).output
                = record.toJson.pretty ++ "\n"
            ∧ Report.ReportRecord.read? (action.run environment colours capability).output
                = some record
            ∧ record.filesAnalyzed = record.analyses.length
            ∧ record.analyses.length = analyses.length := by
  have hsettled : (action.run environment colours capability).Settled := by
    cases action with
    | analyze options => exact settled_of_ends (options.run_ends environment colours capability)
    | languages => exact settled_of_success rfl
    | init output => exact settled_runInit environment output
  refine ⟨hsettled.exitCode, hsettled.silent, ?_⟩
  rintro options rfl hformat hexit
  have hnamed : Format.ofName? options.format = some .json := by
    rw [hformat]
    rfl
  have hends := options.run_ends environment colours capability
  rw [Action.run] at hexit ⊢
  generalize options.run environment colours capability = outcome at hends hexit ⊢
  cases hends with
  | refused => cases hexit
  | idle h =>
      obtain rfl := h.eq_of_ofName? hnamed
      exact .inl ⟨rfl, rfl, rfl, _, h⟩
  | finished h hsome =>
      obtain rfl := h.eq_of_ofName? hnamed
      have hwritten := AnalyzeOptions.failure_of_finish hexit
      obtain ⟨record, htext, hread, hcount, hlength⟩ := exists_record _ _
      refine .inr ⟨_, _, record, h, hsome, ?_⟩
      rw [(AnalyzeOptions.finish_of_written hwritten).2, Format.report]
      exact ⟨htext, hread, hcount, hlength⟩

/-- Options that ask for a report as JSON, and for documents at a path. -/
def reportOptions (saveDocs : Option String) : AnalyzeOptions where
  path := "src"
  format := "json"
  saveDocs := saveDocs

theorem output_of_run_workbench :
    let run saveDocs := (Action.analyze (reportOptions saveDocs)).run workbench false noModel
    (run none).exitCode = 0
      ∧ (∃ record, Report.ReportRecord.read? (run none).output = some record
          ∧ record.filesAnalyzed = 2)
      ∧ (run (some "src")).exitCode = 2
      ∧ (run (some "src")).output = ""
      ∧ (run (some "src")).messages ≠ "" := by
  intro run
  have hgathers (saveDocs : Option String) :
      (reportOptions saveDocs).Gathers workbench .json {} workbenchAnalyses :=
    workbench_gathers rfl rfl rfl rfl
  have hrun (saveDocs : Option String) := ((reportOptions saveDocs).run_ends workbench false
    noModel).eq_finish (hgathers saveDocs) (by decide)
  have hexit : (run none).exitCode = 0 := by
    show ((reportOptions none).run workbench false noModel).exitCode = 0
    rw [hrun]
    decide +kernel
  -- The documents cannot be written over the directory with the sources.
  have hfail : (run (some "src")).exitCode = 2 := by
    show ((reportOptions (some "src")).run workbench false noModel).exitCode = 2
    rw [hrun]
    decide +kernel
  obtain ⟨-, -, hjson⟩ := output_of_run (.analyze (reportOptions none)) workbench false noModel
  obtain ⟨-, hsilent, -⟩ :=
    output_of_run (.analyze (reportOptions (some "src"))) workbench false noModel
  refine ⟨hexit, ?_, hfail, hsilent hfail⟩
  rcases hjson _ rfl rfl hexit with ⟨-, -, -, settings, hidle⟩ |
    ⟨settings, analyses, record, hfound, -, -, hread, hcount, hlength⟩
  · exact absurd ((hgathers none).unique hidle).2.2 (by decide)
  · obtain ⟨-, -, rfl⟩ := (hgathers none).unique hfound
    exact ⟨record, hread, hcount.trans hlength⟩

end SnippetScope.Command
