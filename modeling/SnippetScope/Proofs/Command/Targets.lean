/-
  SnippetScope.Proofs.Command.Targets

  The files that a run of the command that analyses writes.  They lie at the
  paths that the options ask for (`AnalyzeOptions.targets`), and the main
  statement (`tree_of_run`) is that nothing else in the tree changes, and that
  a run that ends well leaves at each of them what belongs there.
-/
import Mathlib.Data.List.Forall2
import SnippetScope.Proofs.Command.Runs

namespace SnippetScope.Command

open FileTree (Encloses Edits)

variable {options : AnalyzeOptions} {environment : Environment} {settings : Settings}
  {analyses : List Analysis} {documents : List Docs.Documents}

/-! ## Paths -/

/-- The path that an option names leads on from the directory in the settings. -/
def targetPath (settings : Settings) (path : String) : List Char :=
  FilePath.join settings.directory.toList path.toList

/-- The paths of the drawings of analyses, for the path that an option names. -/
def drawingTargets (settings : Settings) (analyses : List Analysis) (path : String) :
    List (List Char) :=
  drawingPaths (targetPath settings path) (analyses.map fun a => a.path.map (·.toList))
    drawingExtension

/-- The paths that the options ask for. -/
def AnalyzeOptions.targets (options : AnalyzeOptions) (settings : Settings)
    (analyses : List Analysis) : List (List Char) :=
  (options.diagram.map (drawingTargets settings analyses)).getD []
    ++ (options.chart.map (drawingTargets settings analyses)).getD []
    ++ (options.saveDocs.map (targetPath settings)).toList

theorem length_numberedPaths (base stem : List Char) (extension : String) (number : Nat)
    (sources : List (Option (List Char))) :
    (numberedPaths base stem extension number sources).length = sources.length := by
  induction sources generalizing number with
  | nil => rfl
  | cons source rest ih => rw [numberedPaths, List.length_cons, ih, List.length_cons]

theorem length_drawingPaths (base : List Char) (sources : List (Option (List Char)))
    (extension : String) : (drawingPaths base sources extension).length = sources.length := by
  unfold drawingPaths
  split
  · rfl
  · exact length_numberedPaths _ _ _ _ _

example : drawingPaths "out/d.svg".toList [some "a/x.c".toList, none] drawingExtension
    = ["out/d-0-x.svg".toList, "out/d-1-1.svg".toList] := by decide

/-- There is one path for each drawing. -/
theorem length_drawingTargets (settings : Settings) (analyses : List Analysis) (path : String) :
    (drawingTargets settings analyses path).length = analyses.length := by
  rw [drawingTargets, length_drawingPaths, List.length_map]

theorem map_path_drawings (kind : ArtifactKind) (draw : Analysis → String) (path : String) :
    (drawings kind draw (targetPath settings path) analyses).map (·.path)
      = drawingTargets settings analyses path := by
  have hlength := length_drawingTargets settings analyses path
  simp only [drawings, List.map_map]
  exact List.map_snd_zip (Nat.le_of_eq hlength)

/-- The files to be written lie at the targets. -/
theorem map_path_artifacts :
    (options.artifacts settings analyses documents).map (·.path)
      = options.targets settings analyses := by
  rw [AnalyzeOptions.artifacts, AnalyzeOptions.targets, List.map_append, List.map_append]
  congr 1
  · congr 1
    · cases options.diagram with
      | none => rfl
      | some path => exact map_path_drawings .diagram diagramOf path
    · cases options.chart with
      | none => rfl
      | some path => exact map_path_drawings .chart chartOf path
  · cases options.saveDocs <;> rfl

/-! ## What is written -/

/-- No two of the paths lead to the same place. -/
def Apart (tree : FileTree) (here : FileTree.Location) (paths : List (List Char)) : Prop :=
  paths.Pairwise fun path other =>
    ∀ place, tree.LeadsTo here path place → ¬ tree.LeadsTo here other place

/-- Without links it is enough that different places are found. -/
theorem apart_of_find {tree : FileTree} (hfree : tree.LinkFree) {here : FileTree.Location}
    {paths : List (List Char)}
    (h : paths.Pairwise fun path other => tree.find here path ≠ tree.find here other) :
    Apart tree here paths := by
  refine h.imp fun hne place hleads hother => hne ?_
  rw [hfree.leadsTo_iff.mp hleads, hfree.leadsTo_iff.mp hother]

/-- If no two targets share a place, each file holds its text once all are
    written. -/
theorem holds_of_mem_artifacts {artifacts : List Artifact} {here : FileTree.Location}
    {tree : FileTree} (h : (writeAll here tree artifacts).failure = none)
    (hapart : Apart (writeAll here tree artifacts).tree here (artifacts.map (·.path)))
    {a : Artifact} (ha : a ∈ artifacts) :
    (writeAll here tree artifacts).tree.Holds here a.path a.text := by
  obtain ⟨front, rest, hsplit⟩ := List.append_of_mem ha
  refine holds_writeAll h hsplit fun b hb => ?_
  have hrest : (a :: rest).Sublist artifacts :=
    hsplit ▸ List.sublist_append_right front (a :: rest)
  exact (List.pairwise_cons.mp ((List.pairwise_map.mp hapart).sublist hrest)).1 b hb

/-- If every drawing holds its text, each analysis has its own at its target. -/
theorem forall₂_drawings (kind : ArtifactKind) {draw : Analysis → String} {path : String}
    {P : List Char → String → Prop}
    (h : ∀ a ∈ drawings kind draw (targetPath settings path) analyses, P a.path a.text) :
    List.Forall₂ (fun a target => P target (draw a)) analyses
      (drawingTargets settings analyses path) := by
  refine List.forall₂_iff_zip.mpr ⟨(length_drawingTargets settings analyses path).symm, ?_⟩
  intro a target hmem
  have hdrawing : ⟨kind, target, draw a⟩
      ∈ drawings kind draw (targetPath settings path) analyses :=
    List.mem_map.mpr ⟨(a, target), hmem, rfl⟩
  exact h _ hdrawing

/-- The saved text joins the documents of all analyses, each with its own
    texts. -/
theorem savedText_map (document : Analysis → Docs.Documents) :
    Report.savedText analyses (analyses.map document)
      = Report.separator.intercalate
          (analyses.map fun a => Report.markdown a (some (document a))) := by
  have hzip : analyses.zip (analyses.map document) = analyses.map fun a => (a, document a) := by
    simpa using List.zip_map' (f := id) (g := document) (l := analyses)
  rw [Report.savedText, hzip, List.map_map]
  rfl

/-- The text of the saved documents of all analyses. -/
def AnalyzeOptions.joined (options : AnalyzeOptions)
    (capability : ModelSettings → Docs.Capability) (settings : Settings)
    (analyses : List Analysis) : String :=
  Report.separator.intercalate (analyses.map fun a => Report.markdown a
    (some ((options.model capability settings).document ⟨a.outline, a.complexity, a.structures⟩)))

theorem savedText_documents {capability : ModelSettings → Docs.Capability} {path : String}
    (h : options.saveDocs = some path) :
    Report.savedText analyses (options.documents (options.model capability settings) analyses)
      = options.joined capability settings analyses := by
  rw [AnalyzeOptions.documents, h, AnalyzeOptions.joined]
  simp only [Option.isSome_some, Bool.or_true, if_true]
  exact savedText_map _

/-- Each analysis has its drawings at its targets, and the documents of all of
    them are saved, as far as the options ask for it. -/
structure AnalyzeOptions.Delivers (options : AnalyzeOptions)
    (capability : ModelSettings → Docs.Capability) (settings : Settings)
    (analyses : List Analysis) (tree : FileTree) (here : FileTree.Location) : Prop where
  diagrams : ∀ path, options.diagram = some path →
    List.Forall₂ (fun a target => tree.Holds here target (diagramOf a)) analyses
      (drawingTargets settings analyses path)
  charts : ∀ path, options.chart = some path →
    List.Forall₂ (fun a target => tree.Holds here target (chartOf a)) analyses
      (drawingTargets settings analyses path)
  saved : ∀ path, options.saveDocs = some path →
    tree.Holds here (targetPath settings path) (options.joined capability settings analyses)

theorem delivers_of_holds {capability : ModelSettings → Docs.Capability} {tree : FileTree}
    {here : FileTree.Location}
    (h : ∀ a ∈ options.artifacts settings analyses
      (options.documents (options.model capability settings) analyses),
      tree.Holds here a.path a.text) :
    options.Delivers capability settings analyses tree here := by
  simp only [AnalyzeOptions.artifacts, List.mem_append] at h
  constructor
  · intro path hpath
    refine forall₂_drawings .diagram fun a ha => h a (.inl (.inl ?_))
    rw [hpath]
    exact ha
  · intro path hpath
    refine forall₂_drawings .chart fun a ha => h a (.inl (.inr ?_))
    rw [hpath]
    exact ha
  · intro path hpath
    rw [← savedText_documents hpath]
    refine h ⟨.documents, targetPath settings path, _⟩ (.inr ?_)
    rw [hpath]
    exact List.mem_singleton_self _

/-! ## Runs -/

namespace AnalyzeOptions.Ends

variable {colours : Bool} {capability : ModelSettings → Docs.Capability} {outcome : Outcome}

theorem tree_of_no_analysis (hends : options.Ends environment colours capability outcome)
    (h : ∀ format settings analyses, options.Gathers environment format settings analyses →
      analyses = []) : outcome.tree = environment.tree := by
  cases hends with
  | refused => rfl
  | idle => rfl
  | finished hgathers hsome => exact absurd (h _ _ _ hgathers) hsome

theorem tree_of_no_target (hends : options.Ends environment colours capability outcome)
    (hdiagram : options.diagram = none) (hchart : options.chart = none)
    (hsave : options.saveDocs = none) : outcome.tree = environment.tree := by
  cases hends with
  | refused => rfl
  | idle => rfl
  | finished =>
      rw [finish_tree, artifacts, hdiagram, hchart, hsave]
      rfl

/-- Whatever comes of a run, only its targets and what lies around them are
    touched. -/
theorem edits {format : Format} (hends : options.Ends environment colours capability outcome)
    (h : options.Gathers environment format settings analyses) :
    Edits environment.here
      (fun enclosing => ∃ target ∈ options.targets settings analyses, Encloses target enclosing)
      (fun target _ => target ∈ options.targets settings analyses)
      environment.tree outcome.tree := by
  by_cases hsome : analyses = []
  · rw [hends.tree_of_no_analysis fun _ _ _ h' => (h.unique h').2.2.trans hsome]
    exact .refl _
  · rw [hends.eq_finish h hsome, finish_tree]
    refine (edits_writeAll _ _ _).mono ?_ ?_
    · rintro enclosing ⟨a, ha, henclosing⟩
      refine ⟨a.path, ?_, henclosing⟩
      exact map_path_artifacts ▸ List.mem_map_of_mem ha
    · rintro _ _ ⟨a, ha, rfl, -⟩
      exact map_path_artifacts ▸ List.mem_map_of_mem ha

/-- A run makes no links. -/
theorem linkFree (hends : options.Ends environment colours capability outcome)
    (hfree : environment.tree.LinkFree) : outcome.tree.LinkFree := by
  cases hends with
  | refused => exact hfree
  | idle => exact hfree
  | finished =>
      rw [finish_tree]
      exact (edits_writeAll _ _ _).linkFree hfree

/-- A run that ends well delivers what is asked for. -/
theorem delivers {format : Format} (hends : options.Ends environment colours capability outcome)
    (h : options.Gathers environment format settings analyses) (hsome : analyses ≠ [])
    (hexit : outcome.exitCode = 0)
    (hapart : Apart outcome.tree environment.here (options.targets settings analyses)) :
    options.Delivers capability settings analyses outcome.tree environment.here := by
  obtain rfl := hends.eq_finish h hsome
  have hwritten := failure_of_finish hexit
  rw [finish_tree] at hapart ⊢
  rw [← map_path_artifacts] at hapart
  exact delivers_of_holds fun a ha => holds_of_mem_artifacts hwritten hapart ha

end AnalyzeOptions.Ends

/-- A run changes the files at its targets and the directories around them, and
    nothing without an analysis or a target.  If it ends well and no two targets
    are one file, it delivers what is asked for; without links that is what is
    read at the targets. -/
theorem tree_of_run (options : AnalyzeOptions) (environment : Environment) (colours : Bool)
    (capability : ModelSettings → Docs.Capability) :
    ((∀ format settings analyses, options.Gathers environment format settings analyses →
        analyses = []) →
      (options.run environment colours capability).tree = environment.tree)
    ∧ (options.diagram = none → options.chart = none → options.saveDocs = none →
        (options.run environment colours capability).tree = environment.tree)
    ∧ (∀ format settings analyses, options.Gathers environment format settings analyses →
        Edits environment.here
          (fun enclosing => ∃ target ∈ options.targets settings analyses,
            Encloses target enclosing)
          (fun target _ => target ∈ options.targets settings analyses)
          environment.tree (options.run environment colours capability).tree
        ∧ ((options.run environment colours capability).exitCode = 0 → analyses ≠ [] →
            Apart (options.run environment colours capability).tree environment.here
              (options.targets settings analyses) →
            options.Delivers capability settings analyses
              (options.run environment colours capability).tree environment.here))
    ∧ (environment.tree.LinkFree → ∀ path text,
        (options.run environment colours capability).tree.Holds environment.here path text →
        (options.run environment colours capability).tree.readText environment.here path
          = .ok text) := by
  have hends := options.run_ends environment colours capability
  refine ⟨hends.tree_of_no_analysis, hends.tree_of_no_target, fun format settings analyses h =>
    ⟨hends.edits h, fun hexit hsome hapart => hends.delivers h hsome hexit hapart⟩, ?_⟩
  exact fun hfree path text hholds => (hends.linkFree hfree).readText_of_holds hholds

/-! ## A run over two sources -/

def addText : String := "int add(int a, int b) \x7b return a + b; \x7d\n"

def pushText : String := "def push(xs, x):\n    xs.append(x)\n"

/-- A directory with two sources in different languages. -/
def workbench : Environment where
  tree := .directory [("src".toList, .directory
    [("add.c".toList, .file addText.toUTF8), ("push.py".toList, .file pushText.toUTF8)])]
  here := []

/-- Everything that can be written is asked for. -/
def workbenchOptions : AnalyzeOptions where
  path := "src"
  format := "markdown"
  diagram := some "out/d.svg"
  chart := some "out/c.svg"
  saveDocs := some "out/docs.md"

/-- There is no model to be asked. -/
def noModel (_ : ModelSettings) : Docs.Capability :=
  .unavailable "no key"

def workbenchAnalyses : List Analysis :=
  [.ofSource {} { text := addText, fileName := some "src/add.c" },
    .ofSource {} { text := pushText, fileName := some "src/push.py" }]

theorem workbench_linkFree : workbench.tree.LinkFree := by
  have hsources : (FileTree.directory [("add.c".toList, .file addText.toUTF8),
      ("push.py".toList, .file pushText.toUTF8)]).Plain :=
    .directory (by decide) (by decide) (by simp [FileTree.Plain.file])
  have hplain : workbench.tree.Plain := .directory (by decide) (by decide) (by simpa using hsources)
  exact hplain.linkFree

-- The sorts are opened by a lemma, since they do not compute.
theorem workbench_sources : workbench.sources {} "src" none
    = .ok [{ text := addText, fileName := some "src/add.c" },
        { text := pushText, fileName := some "src/push.py" }] := by
  have hsort : FilePath.sort ["src/add.c".toList, "src/push.py".toList]
      = ["src/add.c".toList, "src/push.py".toList] := List.mergeSort_of_pairwise (by decide)
  have hpaths : workbench.sources {} "src" none = .ok ((FilePath.sort
      ["src/add.c".toList, "src/push.py".toList]).filterMap workbench.source?) := rfl
  rw [hpaths, hsort]
  rfl

/-- Whatever else they ask for, options with this path lead to the two analyses. -/
theorem workbench_gathers {options : AnalyzeOptions} {format : Format}
    (hformat : Format.ofName? options.format = some format) (hpath : options.path = "src")
    (hlanguage : options.language = none) (hsettings : options.settings = none) :
    options.Gathers workbench format {} workbenchAnalyses where
  format_eq := hformat
  language_known := by
    rw [hlanguage]
    exact nofun
  settings_eq := by
    rw [hsettings]
    rfl
  analyses_eq := by
    have hsort : sortByPath workbenchAnalyses = workbenchAnalyses :=
      List.mergeSort_of_pairwise (by decide)
    rw [hpath, hlanguage, Environment.analyses, Option.bind_none, workbench_sources]
    exact congrArg Except.ok hsort

theorem workbench_run : workbenchOptions.run workbench false noModel
    = workbenchOptions.finish workbench false .markdown {} workbenchAnalyses
        (workbenchOptions.documents (workbenchOptions.model noModel {}) workbenchAnalyses) :=
  (workbenchOptions.run_ends workbench false noModel).eq_finish
    (workbench_gathers rfl rfl rfl rfl) (by decide)

theorem workbench_exitCode : (workbenchOptions.run workbench false noModel).exitCode = 0 := by
  rw [workbench_run]
  decide +kernel

theorem workbench_apart : Apart (workbenchOptions.run workbench false noModel).tree workbench.here
    (workbenchOptions.targets {} workbenchAnalyses) := by
  have hfree := (workbenchOptions.run_ends workbench false noModel).linkFree workbench_linkFree
  refine apart_of_find hfree ?_
  rw [workbench_run]
  decide +kernel

theorem tree_of_run_workbench :
    (workbenchOptions.run workbench false noModel).exitCode = 0
      ∧ workbenchOptions.Gathers workbench .markdown {} workbenchAnalyses
      ∧ (workbenchOptions.targets {} workbenchAnalyses).map String.ofList
          = ["./out/d-0-add.svg", "./out/d-1-push.svg", "./out/c-0-add.svg",
            "./out/c-1-push.svg", "./out/docs.md"]
      ∧ Apart (workbenchOptions.run workbench false noModel).tree workbench.here
          (workbenchOptions.targets {} workbenchAnalyses)
      ∧ workbenchOptions.Delivers noModel {} workbenchAnalyses
          (workbenchOptions.run workbench false noModel).tree workbench.here
      ∧ (workbenchOptions.run workbench false noModel).tree.readText workbench.here
            "./out/docs.md".toList
          = .ok (workbenchOptions.joined noModel {} workbenchAnalyses) := by
  have hgathers : workbenchOptions.Gathers workbench .markdown {} workbenchAnalyses :=
    workbench_gathers rfl rfl rfl rfl
  obtain ⟨-, -, hwritten, hread⟩ := tree_of_run workbenchOptions workbench false noModel
  have hdelivers := (hwritten _ _ _ hgathers).2 workbench_exitCode (by decide) workbench_apart
  exact ⟨workbench_exitCode, hgathers, by decide +kernel, workbench_apart, hdelivers,
    hread workbench_linkFree _ _ (hdelivers.saved _ rfl)⟩

end SnippetScope.Command
