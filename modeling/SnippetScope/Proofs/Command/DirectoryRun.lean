/-
  SnippetScope.Proofs.Command.DirectoryRun

  A run over a directory is the batch of the runs over its files
  (`directoryRun_eq_fileRuns`).  The walk finds the files in the order in which
  the system lists them; sorting makes the order theirs alone, since no two of
  them have the same components.  Dropping files without a text and analysing
  the others keeps that order, so the sort of the analyses that follows has
  nothing to do (`sortByPath_eq_self`).
-/
import SnippetScope.Command.Analyze
import SnippetScope.Proofs.FilePath.Order
import SnippetScope.Proofs.FileTree.Relisted
import SnippetScope.Proofs.FileTree.Walk

namespace SnippetScope.Command

open FilePath (before below)
open FileTree (Location Finds Relisted)

/-! ## The second sort -/

theorem pathBefore_asymm {a b : Option String} (h : pathBefore a b = true) :
    pathBefore b a = false := by
  cases a with
  | none =>
      cases b with
      | none => rfl
      | some b => rfl
  | some a =>
      cases b with
      | none => cases h
      | some b =>
          rw [pathBefore, FilePath.before_iff] at h
          rw [pathBefore, ← Bool.not_eq_true, FilePath.before_iff]
          exact lt_asymm h

/-- Analyses whose paths increase already are in their order. -/
theorem sortByPath_eq_self {analyses : List Analysis}
    (h : analyses.Pairwise fun a b => pathBefore a.path b.path = true) :
    sortByPath analyses = analyses := by
  apply List.mergeSort_of_pairwise
  refine h.imp fun {a b} hab => ?_
  rw [pathBefore_asymm hab]
  rfl

theorem sortByPath_singleton (analysis : Analysis) : sortByPath [analysis] = [analysis] :=
  sortByPath_eq_self (List.pairwise_singleton _ _)

/-! ## Files of a directory -/

section Directory

variable {environment : Environment} {settings : Settings} {place : Location}
  {directory : List Char} {names : Location}

theorem readText_eq_ok_iff {tree : FileTree} {here place : Location} {path : List Char}
    (hfind : tree.find here path = .ok place) {text : String} :
    tree.readText here path = .ok text ↔
      ∃ content, tree.get? place = some (.file content) ∧ String.fromUTF8? content = some text := by
  rw [FileTree.readText, FileTree.entry, hfind]
  cases hentry : tree.get? place with
  | none => simp [bind, Except.bind, hentry]
  | some entry =>
      cases entry with
      | link target => simp [bind, Except.bind, hentry]
      | directory entries => simp [bind, Except.bind, hentry]
      | file content =>
          cases htext : String.fromUTF8? content with
          | none => simp [bind, Except.bind, hentry, htext]
          | some text' => simp [bind, Except.bind, hentry, htext]

/-- The analysis is that of the file that the names lead to, which holds a
    text. -/
def IsAnalysisAt (tree : FileTree) (settings : Settings) (place : Location) (directory : List Char)
    (names : Location) (analysis : Analysis) : Prop :=
  ∃ content text, tree.get? (place ++ names) = some (.file content)
    ∧ String.fromUTF8? content = some text
    ∧ analysis = Analysis.ofSource settings
        { text, fileName := some (String.ofList (below directory names)) }

/-- The names lead from a directory to a file that a run over the directory
    analyses. -/
structure Picked (tree : FileTree) (settings : Settings) (place : Location)
    (directory : List Char) (names : Location) : Prop where
  /-- It is a file that holds a text. -/
  text : ∃ content text, tree.get? (place ++ names) = some (.file content)
    ∧ String.fromUTF8? content = some text
  /-- No directory on the way is hidden or left behind by builds. -/
  visited : ∀ name ∈ names.dropLast, name.head? ≠ some '.'
    ∧ String.ofList name ∉ ["target", "node_modules", "vendor", "__pycache__"]
  /-- No pattern of the settings leaves it out. -/
  kept : settings.excludes (String.ofList (below directory names)) = false
  /-- Its extension, an empty one if it has none, belongs to a language. -/
  known : (settings.languageOf?
    (String.ofList ((FilePath.extension? (below directory names)).getD []))).isSome = true

theorem visited_iff : FileTree.Visited names ↔
    ∀ name ∈ names.dropLast, name.head? ≠ some '.'
      ∧ String.ofList name ∉ ["target", "node_modules", "vendor", "__pycache__"] := by
  simp [FileTree.Visited, FileTree.isSkipped, FileTree.skippedNames]

theorem picked_iff {tree : FileTree} : Picked tree settings place directory names ↔
    (∃ content text, tree.get? (place ++ names) = some (.file content)
        ∧ String.fromUTF8? content = some text)
      ∧ FileTree.Visited names ∧ isWanted settings (below directory names) = true := by
  rw [visited_iff, isWanted, Bool.and_eq_true, Bool.not_eq_true']
  constructor
  · rintro ⟨htext, hvisited, hkept, hknown⟩
    exact ⟨htext, hvisited, hkept, hknown⟩
  · rintro ⟨htext, hvisited, hkept, hknown⟩
    exact ⟨htext, hvisited, hkept, hknown⟩

/-- In another order of the entries the same files are analysed, with the same
    result. -/
theorem Picked.relisted_iff {tree tree' : FileTree} (h : tree.Relisted tree') :
    Picked tree' settings place directory names ↔ Picked tree settings place directory names := by
  simp only [picked_iff, h.get?_eq_file_iff]

theorem isAnalysisAt_relisted_iff {tree tree' : FileTree} (h : tree.Relisted tree')
    {analysis : Analysis} :
    IsAnalysisAt tree' settings place directory names analysis ↔
      IsAnalysisAt tree settings place directory names analysis := by
  simp only [IsAnalysisAt, h.get?_eq_file_iff]

/-- A directory is no file itself. -/
theorem ne_nil_of_isFileAt {tree : FileTree} {entries : List (List Char × FileTree)}
    (hplace : tree.get? place = some (.directory entries))
    (hfile : tree.IsFileAt (place ++ names)) : names ≠ [] := by
  rintro rfl
  obtain ⟨content, hget⟩ := hfile
  rw [List.append_nil, hplace] at hget
  cases hget

/-- The source at a path below the directory is the text of the file there. -/
theorem source?_below_iff (hplain : environment.tree.Plain)
    (hfind : environment.tree.find environment.here directory = .ok place) (hne : names ≠ [])
    (hfile : environment.tree.IsFileAt (place ++ names)) {source : Source} :
    environment.source? (below directory names) = some source ↔
      ∃ content text, environment.tree.get? (place ++ names) = some (.file content)
        ∧ String.fromUTF8? content = some text
        ∧ source = { text, fileName := some (String.ofList (below directory names)) } := by
  obtain ⟨content, hcontent⟩ := hfile
  have hread := @readText_eq_ok_iff environment.tree environment.here _ _
    (FileTree.find_below hplain hfind hne hcontent)
  rw [Environment.source?]
  cases htext : environment.tree.readText environment.here (below directory names) with
  | error fault =>
      simp only [reduceCtorEq, false_iff]
      rintro ⟨content, text, hget, hutf, -⟩
      rw [hread.mpr ⟨content, hget, hutf⟩] at htext
      cases htext
  | ok text =>
      obtain ⟨content, hget, hutf⟩ := hread.mp htext
      constructor
      · intro h
        exact ⟨content, text, hget, hutf, (Option.some.inj h).symm⟩
      · rintro ⟨content', text', hget', hutf', rfl⟩
        rw [hread.mpr ⟨content', hget', hutf'⟩] at htext
        rw [Except.ok.inj htext]

theorem analysis_below_iff (hplain : environment.tree.Plain)
    (hfind : environment.tree.find environment.here directory = .ok place) (hne : names ≠ [])
    (hfile : environment.tree.IsFileAt (place ++ names)) {analysis : Analysis} :
    (environment.source? (below directory names)).map (Analysis.ofSource settings) = some analysis ↔
      IsAnalysisAt environment.tree settings place directory names analysis := by
  rw [Option.map_eq_some_iff]
  constructor
  · rintro ⟨source, hsource, rfl⟩
    obtain ⟨content, text, hget, hutf, rfl⟩ := (source?_below_iff hplain hfind hne hfile).mp hsource
    exact ⟨content, text, hget, hutf, rfl⟩
  · rintro ⟨content, text, hget, hutf, rfl⟩
    exact ⟨_, (source?_below_iff hplain hfind hne hfile).mpr ⟨content, text, hget, hutf, rfl⟩, rfl⟩

/-- A run over a single file gives its analysis. -/
theorem analyses_below (hplain : environment.tree.Plain)
    (hfind : environment.tree.find environment.here directory = .ok place) (hne : names ≠ [])
    {analysis : Analysis}
    (h : IsAnalysisAt environment.tree settings place directory names analysis) :
    environment.analyses settings (String.ofList (below directory names)) none
      = .ok [analysis] := by
  obtain ⟨content, text, hget, hutf, rfl⟩ := h
  have hdirectory : directory ≠ [] := by
    rintro rfl
    cases hfind
  have hproper : ∀ name ∈ names, FilePath.ProperName name := fun name hname =>
    hplain.properName hget name (List.mem_append_right place hname)
  -- A path that leads below a directory has a slash, so it does not ask for the input.
  have hdash : String.ofList (below directory names) ≠ "-" := by
    intro heq
    have hslash := FilePath.slash_mem_below hdirectory hproper hne
    rw [← String.ofList_toList (s := "-"), String.ofList_inj] at heq
    rw [heq] at hslash
    simp at hslash
  have hfound := FileTree.find_below hplain hfind hne hget
  have hread := (readText_eq_ok_iff hfound).mpr ⟨content, hget, hutf⟩
  have hsources : environment.sources settings (String.ofList (below directory names)) none
      = .ok [{ text, fileName := some (String.ofList (below directory names)) }] := by
    rw [Environment.sources, if_neg hdash, String.toList_ofList, hfound]
    simp only [hget, hread]
    rfl
  rw [Environment.analyses, hsources]
  exact congrArg Except.ok (sortByPath_singleton _)

end Directory

/-! ## The run over a directory -/

/-- What is left of a list goes along with what it becomes. -/
theorem forall₂_filterMap {α β : Type} {R : α → β → Prop} {f : α → Option β} {as : List α}
    (h : ∀ a ∈ as, ∀ b, f a = some b → R a b) :
    List.Forall₂ R (as.filter fun a => (f a).isSome) (as.filterMap f) := by
  induction as with
  | nil => exact .nil
  | cons a as ih =>
      obtain ⟨ha, has⟩ := List.forall_mem_cons.mp h
      cases hfa : f a with
      | none =>
          simp only [List.filterMap_cons, List.filter_cons, hfa, Option.isSome_none,
            Bool.false_eq_true, if_false]
          exact ih has
      | some b =>
          simp only [List.filterMap_cons, List.filter_cons, hfa, Option.isSome_some, if_true]
          exact .cons (ha b hfa) (ih has)

/-- The paths of analyses are those of the files. -/
theorem map_path_eq {tree : FileTree} {settings : Settings} {place : Location}
    {directory : List Char} {picked : List Location} {analyses : List Analysis}
    (h : List.Forall₂ (IsAnalysisAt tree settings place directory) picked analyses) :
    analyses.map (·.path)
      = picked.map fun names => some (String.ofList (below directory names)) := by
  induction h with
  | nil => rfl
  | cons hanalysis _ ih =>
      obtain ⟨content, text, -, -, rfl⟩ := hanalysis
      rw [List.map_cons, List.map_cons, ih]
      rfl

theorem sortByPath_eq_self_of_picked {tree : FileTree} {settings : Settings} {place : Location}
    {directory : List Char} {picked : List Location} {analyses : List Analysis}
    (h : List.Forall₂ (IsAnalysisAt tree settings place directory) picked analyses)
    (hbefore : picked.Pairwise fun a b =>
      before (below directory a) (below directory b) = true) :
    sortByPath analyses = analyses := by
  apply sortByPath_eq_self
  have hpaths : (analyses.map (·.path)).Pairwise fun a b => pathBefore a b = true := by
    rw [map_path_eq h, List.pairwise_map]
    refine hbefore.imp fun {a b} hab => ?_
    rw [pathBefore, String.toList_ofList, String.toList_ofList]
    exact hab
  exact List.pairwise_map.mp hpaths

/-- The files that a walk finds and the settings want, sorted by their paths. -/
theorem exists_places {tree : FileTree} (hplain : tree.Plain) {place : Location}
    {entries : List (List Char × FileTree)} (hplace : tree.get? place = some (.directory entries))
    {directory : List Char} (hdirectory : directory ≠ []) (settings : Settings) :
    ∃ (paths : List (List Char)) (places : List Location), tree.walk place directory = .ok paths
      ∧ FilePath.sort (paths.filter (isWanted settings)) = places.map (below directory)
      ∧ (∀ names, names ∈ places ↔ tree.IsFileAt (place ++ names) ∧ FileTree.Visited names
          ∧ isWanted settings (below directory names) = true)
      ∧ places.Pairwise fun a b => before (below directory a) (below directory b) = true := by
  obtain ⟨paths, hwalk, hfound⟩ := FileTree.walk_finds hplain hplace hdirectory
  have hmem : ∀ path, path ∈ FilePath.sort (paths.filter (isWanted settings)) ↔
      path ∈ paths ∧ isWanted settings path = true := by
    intro path
    rw [FilePath.mem_sort, List.mem_filter]
  have hsub : FilePath.sort (paths.filter (isWanted settings)) ⊆ paths := by
    intro path hpath
    exact ((hmem path).mp hpath).1
  obtain ⟨places, hplaces, haccepts⟩ := hfound.exists_names hsub
  have hproper : ∀ names, tree.IsFileAt (place ++ names) →
      ∀ name ∈ names, FilePath.ProperName name := by
    rintro names ⟨content, hget⟩ name hname
    exact hplain.properName hget name (List.mem_append_right place hname)
  refine ⟨paths, places, hwalk, hplaces, fun names => ⟨fun hnames => ?_, ?_⟩, ?_⟩
  · have hpath : below directory names ∈ places.map (below directory) :=
      List.mem_map_of_mem hnames
    rw [← hplaces] at hpath
    exact ⟨(haccepts names hnames).1, (haccepts names hnames).2, ((hmem _).mp hpath).2⟩
  · rintro ⟨hfile, hvisited, hwanted⟩
    have hpath := (hmem _).mpr
      ⟨(hfound.mem_iff _).mpr ⟨names, ⟨hfile, hvisited⟩, rfl⟩, hwanted⟩
    rw [hplaces] at hpath
    obtain ⟨names', hnames', heq⟩ := List.mem_map.mp hpath
    -- The path tells the names.
    obtain rfl := FilePath.below_injective hdirectory
      (hproper names' (haccepts names' hnames').1) (hproper names hfile)
      (congrArg FilePath.components heq)
    exact hnames'
  · rw [← List.pairwise_map (R := fun a b => before a b = true), ← hplaces]
    -- The walk gives paths with different components, so none are equal in the order.
    exact FilePath.pairwise_before_sort (hfound.distinct.filter _)

/-- A run over a directory analyses the files that are to be picked, in the
    order of their paths. -/
theorem exists_directoryRun {environment : Environment} (hplain : environment.tree.Plain)
    {directory : String} (hdash : directory ≠ "-") {place : Location}
    (hfind : environment.tree.find environment.here directory.toList = .ok place)
    {entries : List (List Char × FileTree)}
    (hplace : environment.tree.get? place = some (.directory entries)) (settings : Settings)
    (language : Option Language) :
    ∃ picked analyses, environment.analyses settings directory language = .ok analyses
      ∧ (∀ names, names ∈ picked ↔
          Picked environment.tree settings place directory.toList names)
      ∧ picked.Pairwise (fun a b =>
          before (below directory.toList a) (below directory.toList b) = true)
      ∧ List.Forall₂ (IsAnalysisAt environment.tree settings place directory.toList)
          picked analyses := by
  have hdirectory : directory.toList ≠ [] := by
    intro hnil
    rw [hnil] at hfind
    cases hfind
  obtain ⟨paths, places, hwalk, hsort, hplaces, hbefore⟩ :=
    exists_places hplain hplace hdirectory settings
  have hanalysis : ∀ names ∈ places, ∀ analysis,
      (environment.source? (below directory.toList names)).map (Analysis.ofSource settings)
          = some analysis ↔
        IsAnalysisAt environment.tree settings place directory.toList names analysis := by
    intro names hnames analysis
    have hfile := ((hplaces names).mp hnames).1
    exact analysis_below_iff hplain hfind (ne_nil_of_isFileAt hplace hfile) hfile
  -- Files without a text drop out of the paths and of the analyses alike.
  have hforall := forall₂_filterMap fun names hnames analysis =>
    (hanalysis names hnames analysis).mp
  have hbefore' := hbefore.filter fun names =>
    ((environment.source? (below directory.toList names)).map (Analysis.ofSource settings)).isSome
  refine ⟨_, _, ?_, fun names => ?_, hbefore', hforall⟩
  · have hsources : environment.sources settings directory language
        = .ok ((places.map (below directory.toList)).filterMap environment.source?) := by
      rw [Environment.sources, if_neg hdash, hfind]
      simp only [hplace]
      rw [Environment.sourcesBelow, hwalk, ← hsort]
    rw [Environment.analyses, hsources]
    refine congrArg Except.ok ?_
    rw [List.filterMap_map, List.map_filterMap]
    exact sortByPath_eq_self_of_picked hforall hbefore'
  · rw [List.mem_filter, picked_iff, hplaces]
    constructor
    · rintro ⟨hnames, hsome⟩
      obtain ⟨analysis, hresult⟩ := Option.isSome_iff_exists.mp hsome
      obtain ⟨content, text, hget, hutf, -⟩ :=
        (hanalysis names ((hplaces names).mpr hnames) analysis).mp hresult
      exact ⟨⟨content, text, hget, hutf⟩, hnames.2⟩
    · rintro ⟨⟨content, text, hget, hutf⟩, hwanted⟩
      have hnames : names ∈ places := (hplaces names).mpr ⟨⟨content, hget⟩, hwanted⟩
      have hresult := (hanalysis names hnames _).mpr ⟨content, text, hget, hutf, rfl⟩
      exact ⟨(hplaces names).mp hnames, Option.isSome_iff_exists.mpr ⟨_, hresult⟩⟩

/-- A run over a directory is the batch of the runs over its files: it gives
    the analyses that these give, once each and in increasing order of the
    paths, for the files that are to be picked; and it does not depend on the
    order in which directories list their entries. -/
theorem directoryRun_eq_fileRuns {environment : Environment} (hplain : environment.tree.Plain)
    {directory : String} (hdash : directory ≠ "-") {place : Location}
    (hfind : environment.tree.find environment.here directory.toList = .ok place)
    {entries : List (List Char × FileTree)}
    (hplace : environment.tree.get? place = some (.directory entries)) (settings : Settings)
    (language : Option Language) :
    ∃ picked analyses, environment.analyses settings directory language = .ok analyses
      ∧ (∀ names, names ∈ picked ↔
          Picked environment.tree settings place directory.toList names)
      ∧ picked.Pairwise (fun a b =>
          before (below directory.toList a) (below directory.toList b) = true)
      ∧ List.Forall₂ (fun names analysis =>
          environment.analyses settings (String.ofList (below directory.toList names)) none
            = .ok [analysis]) picked analyses
      ∧ ∀ tree', environment.tree.Relisted tree' →
          { environment with tree := tree' }.analyses settings directory language
            = .ok analyses := by
  obtain ⟨picked, analyses, hrun, hpicked, hbefore, hanalyses⟩ :=
    exists_directoryRun hplain hdash hfind hplace settings language
  refine ⟨picked, analyses, hrun, hpicked, hbefore, hanalyses.imp ?_, fun tree' hrelisted => ?_⟩
  · intro names analysis hanalysis
    have hfile : environment.tree.IsFileAt (place ++ names) := by
      obtain ⟨content, text, hget, -, -⟩ := hanalysis
      exact ⟨content, hget⟩
    exact analyses_below hplain hfind (ne_nil_of_isFileAt hplace hfile) hanalysis
  · obtain ⟨entries', hplace'⟩ := hrelisted.exists_directory hplace
    have hfind' : tree'.find environment.here directory.toList = .ok place :=
      (hrelisted.find_eq _ _).trans hfind
    obtain ⟨picked', analyses', hrun', hpicked', hbefore', hanalyses'⟩ :=
      @exists_directoryRun { environment with tree := tree' } (hplain.relisted hrelisted)
        directory hdash place hfind' entries' hplace' settings language
    -- The same files are picked, and strictly sorted they are the same list.
    obtain rfl : picked' = picked := by
      refine FilePath.eq_of_pairwise_before hbefore' hbefore fun names => ?_
      rw [hpicked', hpicked]
      exact Picked.relisted_iff hrelisted
    have hsame : List.Forall₂ (IsAnalysisAt environment.tree settings place directory.toList)
        picked' analyses' :=
      hanalyses'.imp fun _ _ => (isAnalysisAt_relisted_iff hrelisted).mp
    have hunique : Relator.RightUnique
        (IsAnalysisAt environment.tree settings place directory.toList) := by
      rintro names _ _ ⟨content, text, hget, hutf, rfl⟩ ⟨content', text', hget', hutf', rfl⟩
      obtain rfl : content = content' := by
        rw [hget] at hget'
        exact FileTree.file.inj (Option.some.inj hget')
      rw [hutf] at hutf'
      rw [Option.some.inj hutf']
    rw [hrun', List.right_unique_forall₂' hunique hsame hanalyses]

/-- A directory in which the order of paths differs from that of their texts. -/
def nestedFiles : Environment where
  tree := .directory
    [("a-b.py".toList, .file .empty), ("a".toList, .directory [("x.py".toList, .file .empty)])]
  here := []

theorem directoryRun_eq_fileRuns_nestedFiles :
    ∃ picked analyses, nestedFiles.analyses {} "." none = .ok analyses
      ∧ (∀ names, names ∈ picked ↔ Picked nestedFiles.tree {} [] ".".toList names)
      ∧ picked.Pairwise (fun a b => before (below ".".toList a) (below ".".toList b) = true)
      ∧ List.Forall₂ (fun names analysis =>
          nestedFiles.analyses {} (String.ofList (below ".".toList names)) none
            = .ok [analysis]) picked analyses
      ∧ ∀ tree', nestedFiles.tree.Relisted tree' →
          { nestedFiles with tree := tree' }.analyses {} "." none = .ok analyses := by
  have hinner : (FileTree.directory [("x.py".toList, .file .empty)]).Plain :=
    .directory (by decide) (by decide) (by simpa using FileTree.Plain.file .empty)
  have hplain : nestedFiles.tree.Plain :=
    .directory (by decide) (by decide) (by simpa using ⟨FileTree.Plain.file .empty, hinner⟩)
  exact directoryRun_eq_fileRuns hplain (by decide) (by rfl) rfl {} none

end SnippetScope.Command
