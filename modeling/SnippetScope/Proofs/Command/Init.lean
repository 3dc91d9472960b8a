/-
  SnippetScope.Proofs.Command.Init

  The command that writes a file with settings.  It ends in one of three ways
  (`runInit_ends`), and the main statement (`runInit_outcome`) tells what each
  leaves behind.  A refusal touches no file.  A success leaves a file that can
  be loaded, and refuses to run again.  No file is lost by it unless the path
  goes back with two dots over a directory that had to be made first: then it
  led nowhere when this was asked, and leads to a file once the directory is
  there (`not_runInit_filesKept`).
-/
import SnippetScope.Command.Init
import SnippetScope.Proofs.FileTree.Edits

namespace SnippetScope.Command

open FileTree (Edits Encloses Grows LinkFree)

variable {environment : Environment} {path : String}

/-! ## The text of the file -/

theorem toList_linesText (lines : List String) :
    (linesText lines).toList = lines.flatMap fun line => line.toList ++ ['\n'] := by
  rw [linesText, String.toList_join, List.flatMap_map]
  simp

/-- The settings that the file holds. -/
def templateSettings : Settings where
  excludedPaths := ["**/target/**", "**/build/**"]

theorem ofText?_settingsTemplate : Settings.ofText? settingsTemplate = some templateSettings := by
  -- The characters are taken line by line, since those of the joined text are
  -- slow to compute.
  rw [Settings.ofText?, settingsTemplate, toList_linesText]
  decide +kernel

theorem problem?_templateSettings : templateSettings.problem? = none := by
  decide +kernel

/-- Settings that are named count if their text is read and makes sense. -/
theorem settings_of_readText {text : String} {settings : Settings}
    (hread : environment.tree.readText environment.here path.toList = .ok text)
    (htext : Settings.ofText? text = some settings) (hproblem : settings.problem? = none) :
    environment.settings (some path) = .ok settings := by
  have hin : environment.settingsIn path.toList = .ok settings := by
    rw [Environment.settingsIn, hread]
    simp only [htext]
  rw [Environment.settings]
  simp only [Option.map_some, Option.some_or, hin, bind, Except.bind, hproblem]
  rfl

/-! ## How a run ends -/

/-- All files are still there, with the same bytes. -/
def FilesKept (tree tree' : FileTree) : Prop :=
  ∀ place content, tree.item? place = some (.file content) →
    tree'.item? place = some (.file content)

theorem edits_prepare (environment : Environment) (path : List Char) :
    Edits environment.here (Encloses path) (fun _ _ => False) environment.tree
      (environment.prepare path).tree := by
  rw [Environment.prepare]
  split
  · rename_i enclosing hparent
    split
    · exact .refl _
    · refine (FileTree.edits_ensurePath _ _ enclosing).mono ?_ fun _ _ h => h
      rintro beyond (rfl | hbeyond)
      · exact .parent hparent
      · exact .beyond hparent hbeyond
  · exact .refl _

/-- How a run ends. -/
inductive InitEnds (environment : Environment) (path : String) : Outcome → Prop where
  | taken (h : environment.tree.reaches environment.here path.toList = true) :
      InitEnds environment path (environment.fail ["Error: file already exists: " ++ path,
        "Remove it or use --output to specify a different path"])
  | blocked (message : String) :
      InitEnds environment path
        { exitCode := 2, messages := linesText ["Error: " ++ message],
          tree := (environment.prepare path.toList).tree }
  | written {tree : FileTree} (h : environment.tree.reaches environment.here path.toList = false)
      (hwrite : (environment.prepare path.toList).tree.writeText environment.here path.toList
        settingsTemplate = .ok tree) :
      InitEnds environment path { exitCode := 0, output := createdText path, tree }

theorem runInit_ends (environment : Environment) (path : String) :
    InitEnds environment path (runInit environment path) := by
  rw [runInit]
  split
  · rename_i h
    exact .taken h
  · rename_i h
    dsimp only
    split
    · exact .blocked _
    · split
      · exact .blocked _
      · rename_i hwrite
        exact .written (Bool.eq_false_iff.mpr h) hwrite

/-- What a refusal leaves behind: the same files, and directories around the
    path that may have been made. -/
structure Refused (environment : Environment) (path : String) (tree : FileTree) : Prop where
  files : ∀ place content,
    tree.item? place = some (.file content) ↔ environment.tree.item? place = some (.file content)
  edits : Edits environment.here (Encloses path.toList) (fun _ _ => False) environment.tree tree

/-- What a success leaves behind. -/
structure Initialised (environment : Environment) (path : String) (tree : FileTree) : Prop where
  /-- The path leads to a file with the text. -/
  holds : tree.Holds environment.here path.toList settingsTemplate
  /-- The settings are read from it. -/
  loads : { environment with tree }.settings (some path) = .ok templateSettings
  /-- All paths lead where they led before. -/
  grows : Grows environment.tree tree
  linkFree : tree.LinkFree
  /-- Any other file is as it was. -/
  others : ∀ place content, environment.tree.item? place = some (.file content) →
    ¬ tree.LeadsTo environment.here path.toList place → tree.item? place = some (.file content)
  /-- No file was in the place if the path never goes back, or if no directory
      was missing. -/
  kept : (['.', '.'] ∉ FileTree.steps path.toList
      ∨ ∀ place, tree.item? place = some .directory →
          environment.tree.item? place = some .directory) →
    FilesKept environment.tree tree
  /-- A second run changes nothing. -/
  again : runInit { environment with tree } path
    = { environment with tree }.fail ["Error: file already exists: " ++ path,
        "Remove it or use --output to specify a different path"]

theorem refused_of_edits {tree : FileTree}
    (h : Edits environment.here (Encloses path.toList) (fun _ _ => False) environment.tree tree) :
    Refused environment path tree :=
  ⟨fun _ _ => h.file_iff, h⟩

/-- The path now leads to a file.  If it led to this file before, the run would
    have been refused. -/
theorem not_leadsTo_of_written (hfree : environment.tree.LinkFree)
    (h : environment.tree.reaches environment.here path.toList = false)
    {place : FileTree.Location} {content : ByteArray}
    (hplace : environment.tree.item? place = some (.file content)) :
    ¬ environment.tree.LeadsTo environment.here path.toList place := by
  intro hleads
  rw [hfree.reaches_of_leadsTo hleads hplace] at h
  cases h

theorem initialised_of_written {tree : FileTree} (hfree : environment.tree.LinkFree)
    (h : environment.tree.reaches environment.here path.toList = false)
    (hwrite : (environment.prepare path.toList).tree.writeText environment.here path.toList
      settingsTemplate = .ok tree) :
    Initialised environment path tree := by
  obtain ⟨hwritten, hholds⟩ := FileTree.edits_writeText hwrite
  -- Directories first, then the file: both are edits for the path.
  have hedits : Edits environment.here (Encloses path.toList)
      (fun path' text => path' = path.toList ∧ text = settingsTemplate) environment.tree tree :=
    ((edits_prepare environment path.toList).mono (fun _ h => h) fun _ _ h => h.elim).trans
      (hwritten.mono (fun _ h => h.elim) fun _ _ h => h)
  have hfree' := hedits.linkFree hfree
  have hothers : ∀ place content, environment.tree.item? place = some (.file content) →
      ¬ tree.LeadsTo environment.here path.toList place →
      tree.item? place = some (.file content) := by
    intro place content hplace hapart
    cases hedits place with
    | same hsame => rw [hsame, hplace]
    | made _ _ hbefore _ =>
        rw [hbefore] at hplace
        cases hplace
    | written hpath hleads _ _ => exact absurd (hpath.1 ▸ hleads) hapart
  have hread : tree.readText environment.here path.toList = .ok settingsTemplate :=
    hfree'.readText_of_holds hholds
  refine ⟨hholds, settings_of_readText hread ofText?_settingsTemplate
    problem?_templateSettings, hedits.grows, hfree', hothers, ?_, ?_⟩
  · -- A file is lost only in the place that the path leads to, and then the path
    -- led there before.
    intro hkept place content hplace
    refine hothers place content hplace fun ⟨hpath, hroute⟩ => ?_
    refine not_leadsTo_of_written hfree h hplace ⟨hpath, ?_⟩
    rcases hkept with hback | hdirectories
    · exact (hroute.of_descent hedits.grows hfree' hplace hback).1
    · exact hroute.of_directories hfree' hdirectories hplace
  · obtain ⟨place, hleads, hget⟩ := hholds
    have hreaches : tree.reaches environment.here path.toList = true :=
      hfree'.reaches_of_leadsTo hleads (FileTree.item?_eq_file_iff.mpr hget)
    rw [runInit, if_pos hreaches]

theorem initialised_of_exitCode (hfree : environment.tree.LinkFree)
    (h : (runInit environment path).exitCode = 0) :
    Initialised environment path (runInit environment path).tree := by
  have hends := runInit_ends environment path
  generalize runInit environment path = outcome at hends h ⊢
  cases hends with
  | taken => cases h
  | blocked => cases h
  | written hreaches hwrite => exact initialised_of_written hfree hreaches hwrite

/-- In a tree without links a run that writes settings succeeds and leaves a
    file with settings that can be loaded, or it is refused and leaves all files
    alone. -/
theorem runInit_outcome (hfree : environment.tree.LinkFree) (path : String) :
    ((runInit environment path).exitCode = 0
        ∧ Initialised environment path (runInit environment path).tree)
      ∨ ((runInit environment path).exitCode = 2
        ∧ Refused environment path (runInit environment path).tree) := by
  have hends := runInit_ends environment path
  generalize runInit environment path = outcome at hends ⊢
  cases hends with
  | taken => exact .inr ⟨rfl, refused_of_edits (.refl _)⟩
  | blocked => exact .inr ⟨rfl, refused_of_edits (edits_prepare environment path.toList)⟩
  | written h hwrite => exact .inl ⟨rfl, initialised_of_written hfree h hwrite⟩

/-- A directory with nothing but a file with notes. -/
def notebook : Environment where
  tree := .directory [("notes.yaml".toList, .file "keep me\n".toUTF8)]
  here := []

theorem notebook_linkFree : notebook.tree.LinkFree := by
  have hplain : notebook.tree.Plain :=
    .directory (by decide) (by decide) (by simpa using FileTree.Plain.file _)
  exact hplain.linkFree

theorem runInit_outcome_notebook :
    notebook.tree.LinkFree
      ∧ (runInit notebook "conf/new.yaml").exitCode = 0
      ∧ Initialised notebook "conf/new.yaml" (runInit notebook "conf/new.yaml").tree
      ∧ FilesKept notebook.tree (runInit notebook "conf/new.yaml").tree := by
  have hzero : (runInit notebook "conf/new.yaml").exitCode = 0 := by decide +kernel
  rcases runInit_outcome notebook_linkFree "conf/new.yaml" with ⟨-, h⟩ | ⟨htwo, -⟩
  · exact ⟨notebook_linkFree, hzero, h, h.kept (.inl (by decide))⟩
  · rw [hzero] at htwo
    cases htwo

/-- A path that goes back over a missing directory can end at a file that was
    there, which is lost. -/
theorem not_runInit_filesKept :
    ¬ ∀ environment path, environment.tree.LinkFree → (runInit environment path).exitCode = 0 →
      FilesKept environment.tree (runInit environment path).tree := by
  intro h
  have hzero : (runInit notebook "new/../notes.yaml").exitCode = 0 := by decide +kernel
  have hdone := initialised_of_exitCode notebook_linkFree hzero
  have hfind : (runInit notebook "new/../notes.yaml").tree.find notebook.here
      "new/../notes.yaml".toList = .ok ["notes.yaml".toList] := by decide +kernel
  have hkept := h notebook "new/../notes.yaml" notebook_linkFree hzero ["notes.yaml".toList]
    "keep me\n".toUTF8 rfl
  -- The path leads to the old file, which would have to hold two texts.
  have hold := hdone.linkFree.readText_of_holds
    ⟨_, FileTree.leadsTo_of_find hfind, FileTree.item?_eq_file_iff.mp hkept⟩
  rw [hdone.linkFree.readText_of_holds hdone.holds] at hold
  have hlist := congrArg String.toList (Except.ok.inj hold)
  rw [settingsTemplate, toList_linesText] at hlist
  cases hlist

end SnippetScope.Command
