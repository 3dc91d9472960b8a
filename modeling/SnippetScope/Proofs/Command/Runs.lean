/-
  SnippetScope.Proofs.Command.Runs

  How a run of the command that analyses can end (`AnalyzeOptions.run_ends`):
  it is refused before anything has been done, it finds nothing to analyse, or
  it goes on to write and to report.  What is asked of a run is read off these
  three ends, not off the run.
-/
import SnippetScope.Command
import SnippetScope.Proofs.Command.Artifacts

namespace SnippetScope.Command

variable {options : AnalyzeOptions} {environment : Environment} {colours : Bool}
  {capability : ModelSettings → Docs.Capability}

namespace AnalyzeOptions

/-- The options make sense, and they lead to the settings and the analyses. -/
structure Gathers (options : AnalyzeOptions) (environment : Environment) (format : Format)
    (settings : Settings) (analyses : List Analysis) : Prop where
  format_eq : Format.ofName? options.format = some format
  language_known : ∀ name, options.language = some name → (Language.ofName? name).isSome
  settings_eq : environment.settings options.settings = .ok settings
  analyses_eq : environment.analyses settings options.path
    (options.language.bind Language.ofName?) = .ok analyses

theorem Gathers.eq_of_ofName? {format named : Format} {settings : Settings}
    {analyses : List Analysis} (h : options.Gathers environment format settings analyses)
    (hnamed : Format.ofName? options.format = some named) : format = named :=
  Option.some.inj (h.format_eq.symm.trans hnamed)

/-- The options lead to one format, to one value of the settings and to one
    list of analyses. -/
theorem Gathers.unique {format format' : Format} {settings settings' : Settings}
    {analyses analyses' : List Analysis} (h : options.Gathers environment format settings analyses)
    (h' : options.Gathers environment format' settings' analyses') :
    format' = format ∧ settings' = settings ∧ analyses' = analyses := by
  obtain rfl := h'.eq_of_ofName? h.format_eq
  obtain rfl : settings' = settings := Except.ok.inj (h'.settings_eq.symm.trans h.settings_eq)
  exact ⟨rfl, rfl, Except.ok.inj (h'.analyses_eq.symm.trans h.analyses_eq)⟩

/-- The text model of a run: none if it is to stay offline. -/
def model (options : AnalyzeOptions) (capability : ModelSettings → Docs.Capability)
    (settings : Settings) : Docs.Capability :=
  if options.offline then .unavailable "offline mode" else capability settings.generation

/-- How a run ends. -/
inductive Ends (options : AnalyzeOptions) (environment : Environment) (colours : Bool)
    (capability : ModelSettings → Docs.Capability) : Outcome → Prop where
  | refused {line : String} {lines : List String}
      (h : ∀ format settings analyses, ¬ options.Gathers environment format settings analyses) :
      Ends options environment colours capability (environment.fail (line :: lines))
  | idle {format : Format} {settings : Settings}
      (h : options.Gathers environment format settings []) :
      Ends options environment colours capability
        { exitCode := 0, messages := linesText ["Warning: no files to analyze"],
          tree := environment.tree }
  | finished {format : Format} {settings : Settings} {analyses : List Analysis}
      (h : options.Gathers environment format settings analyses) (hsome : analyses ≠ []) :
      Ends options environment colours capability
        (options.finish environment colours format settings analyses
          (options.documents (options.model capability settings) analyses))

theorem run_ends (options : AnalyzeOptions) (environment : Environment) (colours : Bool)
    (capability : ModelSettings → Docs.Capability) :
    options.Ends environment colours capability
      (options.run environment colours capability) := by
  rw [run]
  split
  · rename_i hformat
    refine .refused fun format settings analyses h => ?_
    rw [h.format_eq] at hformat
    cases hformat
  · rename_i format hformat
    split
    · rename_i name hname
      refine .refused fun format settings analyses h => ?_
      obtain ⟨given, hgiven, hunknown⟩ := Option.bind_eq_some_iff.mp hname
      have hknown := h.language_known given hgiven
      simp [Option.isSome_iff_ne_none.mp hknown] at hunknown
    · rename_i hnone
      have hlanguage : ∀ name, options.language = some name →
          (Language.ofName? name).isSome := by
        intro name hname
        by_contra hunknown
        have hnot : ¬ Language.ofName? name = none := by simpa [hname] using hnone
        exact hunknown (Option.isSome_iff_ne_none.mpr hnot)
      split
      · rename_i hsettings
        refine .refused fun format settings analyses h => ?_
        rw [h.settings_eq] at hsettings
        cases hsettings
      · rename_i settings hsettings
        dsimp only
        split
        · rename_i hanalyses
          refine .refused fun format settings' analyses h => ?_
          obtain rfl : settings' = settings := Except.ok.inj (h.settings_eq.symm.trans hsettings)
          rw [h.analyses_eq] at hanalyses
          cases hanalyses
        · rename_i hanalyses
          exact .idle ⟨hformat, hlanguage, hsettings, hanalyses⟩
        · rename_i analyses hsome hanalyses
          exact .finished ⟨hformat, hlanguage, hsettings, hanalyses⟩ hsome

/-- With analyses the run goes on to write and to report. -/
theorem Ends.eq_finish {format : Format} {settings : Settings} {analyses : List Analysis}
    {outcome : Outcome} (hends : options.Ends environment colours capability outcome)
    (h : options.Gathers environment format settings analyses) (hsome : analyses ≠ []) :
    outcome = options.finish environment colours format settings analyses
      (options.documents (options.model capability settings) analyses) := by
  cases hends with
  | refused hnone => exact absurd h (hnone _ _ _)
  | idle h' => exact absurd (h'.unique h).2.2 hsome
  | finished h' =>
      obtain ⟨rfl, rfl, rfl⟩ := h.unique h'
      rfl

/-! ## Writing and reporting -/

variable {format : Format} {settings : Settings} {analyses : List Analysis}
  {documents : List Docs.Documents}

theorem finish_tree :
    (options.finish environment colours format settings analyses documents).tree
      = (writeAll environment.here environment.tree
          (options.artifacts settings analyses documents)).tree := by
  rw [finish]
  split <;> rfl

/-- A file that cannot be written ends the run without a report. -/
theorem finish_of_failure {failure : String}
    (h : (writeAll environment.here environment.tree
      (options.artifacts settings analyses documents)).failure = some failure) :
    (options.finish environment colours format settings analyses documents).exitCode = 2
      ∧ (options.finish environment colours format settings analyses documents).output = ""
      ∧ ∃ notes, (options.finish environment colours format settings analyses documents).messages
          = linesText (notes ++ ["Error: " ++ failure]) := by
  rw [finish]
  simp only [h, true_and]
  exact ⟨_, rfl⟩

/-- Once all files are written the report follows. -/
theorem finish_of_written
    (h : (writeAll environment.here environment.tree
      (options.artifacts settings analyses documents)).failure = none) :
    (options.finish environment colours format settings analyses documents).exitCode = 0
      ∧ (options.finish environment colours format settings analyses documents).output
          = format.report colours analyses documents := by
  rw [finish]
  simp only [h, and_self]

/-- A run that ends well has written all its files. -/
theorem failure_of_finish
    (h : (options.finish environment colours format settings analyses documents).exitCode = 0) :
    (writeAll environment.here environment.tree
      (options.artifacts settings analyses documents)).failure = none := by
  cases hfailure : (writeAll environment.here environment.tree
      (options.artifacts settings analyses documents)).failure with
  | none => rfl
  | some failure =>
      rw [(finish_of_failure hfailure).1] at h
      cases h

end AnalyzeOptions

end SnippetScope.Command
