/-
  SnippetScope.Proofs.Command.PickedLanguage

  The language of the files of a directory.  A run over a directory picks a
  file if the settings give a language to its extension, an empty one if it has
  none.  A file with an extension is analysed as that very language; a file
  without one as whatever its keywords suggest, so the two agree for all files
  if the settings have no entry for the empty extension
  (`language_of_directoryRun`).
-/
import SnippetScope.Command.Analyze
import Mathlib

namespace SnippetScope.Command

open FilePath (extension?)
open FileTree (Location)

/-- An empty extension announces a language only if the settings say so. -/
theorem lookup_of_languageOf?_empty {settings : Settings} {language : Language}
    (h : settings.languageOf? "" = some language) : settings.extensions.lookup "" ≠ none := by
  intro hnone
  have hbuiltIn : settings.languageOf? "" = Language.ofExtension? "" := by
    rw [Settings.languageOf?]
    have hkey : Language.extensionKey "" = "" := by decide
    simp only [hkey, hnone]
  rw [hbuiltIn] at h
  revert h
  decide +revert

/-! ## One source -/

section Source

variable {settings : Settings} {text path : String} {found : Language}

theorem resolveLanguage_of_extension {extension : List Char}
    (hextension : extension? path.toList = some extension)
    (hfound : settings.languageOf? (String.ofList extension) = some found) :
    Source.resolveLanguage settings { text, fileName := some path } = found := by
  simp only [Source.resolveLanguage, Option.bind_some, hextension, hfound]

theorem resolveLanguage_of_no_extension (hextension : extension? path.toList = none) :
    Source.resolveLanguage settings { text, fileName := some path }
      = Language.ofScores text.toList := by
  simp only [Source.resolveLanguage, Option.bind_some, hextension, Option.bind_none,
    Language.detect, Language.ofFileName?, Option.getD_none]

end Source

/-! ## The sources of a directory -/

section Directory

variable {environment : Environment} {settings : Settings} {place : Location}

/-- A source of a directory is the text of a file that the settings want. -/
theorem exists_of_mem_sourcesBelow {directory : List Char} {sources : List Source}
    (hrun : environment.sourcesBelow settings place directory = .ok sources) {source : Source}
    (hsource : source ∈ sources) :
    ∃ path text, isWanted settings path = true
      ∧ environment.tree.readText environment.here path = .ok text
      ∧ source = { text, fileName := some (String.ofList path) } := by
  rw [Environment.sourcesBelow] at hrun
  cases hwalk : environment.tree.walk place directory with
  | error fault =>
      rw [hwalk] at hrun
      cases hrun
  | ok paths =>
      rw [hwalk] at hrun
      obtain rfl := Except.ok.inj hrun
      obtain ⟨path, hpath, hsome⟩ := List.mem_filterMap.mp hsource
      have hwanted : isWanted settings path = true :=
        (List.mem_filter.mp (List.mem_mergeSort.mp hpath)).2
      refine ⟨path, ?_⟩
      rw [Environment.source?] at hsome
      cases htext : environment.tree.readText environment.here path with
      | error fault =>
          rw [htext] at hsome
          cases hsome
      | ok text =>
          rw [htext] at hsome
          exact ⟨text, hwanted, rfl, (Option.some.inj hsome).symm⟩

theorem exists_of_mem_directoryRun {directory : String} (hdash : directory ≠ "-")
    (hfind : environment.tree.find environment.here directory.toList = .ok place)
    {entries : List (List Char × FileTree)}
    (hplace : environment.tree.get? place = some (.directory entries))
    {language : Option Language} {analyses : List Analysis}
    (hrun : environment.analyses settings directory language = .ok analyses) {analysis : Analysis}
    (hanalysis : analysis ∈ analyses) :
    ∃ path text, isWanted settings path = true
      ∧ environment.tree.readText environment.here path = .ok text
      ∧ analysis = Analysis.ofSource settings { text, fileName := some (String.ofList path) } := by
  have hsources : environment.sources settings directory language
      = environment.sourcesBelow settings place directory.toList := by
    rw [Environment.sources, if_neg hdash, hfind]
    simp only [hplace]
  rw [Environment.analyses, hsources] at hrun
  cases hbelow : environment.sourcesBelow settings place directory.toList with
  | error message =>
      rw [hbelow] at hrun
      cases hrun
  | ok sources =>
      rw [hbelow] at hrun
      obtain rfl := Except.ok.inj hrun
      obtain ⟨source, hsource, rfl⟩ := List.mem_map.mp (List.mem_mergeSort.mp hanalysis)
      obtain ⟨path, text, hwanted, hread, rfl⟩ := exists_of_mem_sourcesBelow hbelow hsource
      exact ⟨path, text, hwanted, hread, rfl⟩

end Directory

/-! ## The language of an analysis -/

/-- Each analysis of a run over a directory is that of a file to whose
    extension, an empty one if it has none, the settings give a language.  It
    has this language unless the file has no extension and the settings have an
    entry for the empty one; of a file without extension the keywords decide. -/
theorem language_of_directoryRun {environment : Environment} {settings : Settings}
    {directory : String} (hdash : directory ≠ "-") {place : Location}
    (hfind : environment.tree.find environment.here directory.toList = .ok place)
    {entries : List (List Char × FileTree)}
    (hplace : environment.tree.get? place = some (.directory entries))
    {language : Option Language} {analyses : List Analysis}
    (hrun : environment.analyses settings directory language = .ok analyses) :
    ∀ analysis ∈ analyses, ∃ path found, analysis.path = some path
      ∧ settings.languageOf? (String.ofList ((extension? path.toList).getD [])) = some found
      ∧ (extension? path.toList ≠ none → analysis.language = found)
      ∧ (settings.extensions.lookup "" = none → analysis.language = found)
      ∧ (extension? path.toList = none →
          ∃ text, environment.tree.readText environment.here path.toList = .ok text
            ∧ analysis.language = Language.ofScores text.toList) := by
  intro analysis hanalysis
  obtain ⟨path, text, hwanted, hread, rfl⟩ :=
    exists_of_mem_directoryRun hdash hfind hplace hrun hanalysis
  rw [isWanted, Bool.and_eq_true] at hwanted
  obtain ⟨found, hfound⟩ := Option.isSome_iff_exists.mp hwanted.2
  refine ⟨String.ofList path, found, rfl, ?_⟩
  rw [String.toList_ofList]
  refine ⟨hfound, ?_⟩
  cases hextension : extension? path with
  | some extension =>
      rw [hextension, Option.getD_some] at hfound
      have hlanguage : (Analysis.ofSource settings
          { text, fileName := some (String.ofList path) }).language = found :=
        resolveLanguage_of_extension (by rw [String.toList_ofList, hextension]) hfound
      exact ⟨fun _ => hlanguage, fun _ => hlanguage, fun hnone => by cases hnone⟩
  | none =>
      rw [hextension] at hfound
      have hscored : (Analysis.ofSource settings
          { text, fileName := some (String.ofList path) }).language
            = Language.ofScores text.toList :=
        resolveLanguage_of_no_extension (by rw [String.toList_ofList, hextension])
      exact ⟨fun hsome => absurd rfl hsome,
        fun hempty => absurd hempty (lookup_of_languageOf?_empty hfound),
        fun _ => ⟨text, hread, hscored⟩⟩

/-! ## A file without an extension -/

/-- A directory with a file that has an extension and one that has none. -/
def sketchbook : Environment where
  tree := .directory [("Makefile".toList, .file .empty), ("blink.ino".toList, .file .empty)]
  here := []

/-- Settings with an entry for the empty extension. -/
def bareNames : Settings where
  extensions := [("", "python"), ("ino", "java")]

theorem sketchbook_languages :
    (sketchbook.analyses bareNames "." none).toOption.map
        (List.map fun analysis => (analysis.path, analysis.language))
      = some [(some "./Makefile", .cpp), (some "./blink.ino", .java)] := by
  cbv

theorem exists_sketchbook_run :
    ∃ makefile blink, sketchbook.analyses bareNames "." none = .ok [makefile, blink]
      ∧ makefile.path = some "./Makefile" ∧ makefile.language = .cpp := by
  have hlanguages := sketchbook_languages
  cases hrun : sketchbook.analyses bareNames "." none with
  | error message =>
      rw [hrun] at hlanguages
      cases hlanguages
  | ok analyses =>
      rw [hrun, Except.toOption, Option.map_some, Option.some_inj, List.map_eq_cons_iff]
        at hlanguages
      obtain ⟨makefile, rest, rfl, hmakefile, hrest⟩ := hlanguages
      obtain ⟨blink, rfl, -⟩ := List.map_eq_singleton_iff.mp hrest
      obtain ⟨hpath, hlanguage⟩ := Prod.mk.inj hmakefile
      exact ⟨makefile, blink, rfl, hpath, hlanguage⟩

theorem language_of_directoryRun_sketchbook :
    ∃ analyses, sketchbook.analyses bareNames "." none = .ok analyses
      ∧ ∀ analysis ∈ analyses, ∃ path found, analysis.path = some path
        ∧ bareNames.languageOf? (String.ofList ((extension? path.toList).getD [])) = some found
        ∧ (extension? path.toList ≠ none → analysis.language = found)
        ∧ (bareNames.extensions.lookup "" = none → analysis.language = found)
        ∧ (extension? path.toList = none →
            ∃ text, sketchbook.tree.readText sketchbook.here path.toList = .ok text
              ∧ analysis.language = Language.ofScores text.toList) := by
  obtain ⟨makefile, blink, hrun, -, -⟩ := exists_sketchbook_run
  exact ⟨_, hrun, language_of_directoryRun (by decide) (by rfl) rfl hrun⟩

/-- A file without an extension can be picked for a language and analysed as
    another one. -/
theorem picked_for_another_language :
    bareNames.problem? = none ∧ ∃ analyses, sketchbook.analyses bareNames "." none = .ok analyses
      ∧ ∃ analysis ∈ analyses, ∃ path, analysis.path = some path
        ∧ bareNames.languageOf? (String.ofList ((extension? path.toList).getD [])) = some .python
        ∧ analysis.language = .cpp := by
  obtain ⟨makefile, blink, hrun, hpath, hlanguage⟩ := exists_sketchbook_run
  exact ⟨by decide, _, hrun, makefile, List.mem_cons_self, _, hpath, by decide, hlanguage⟩

end SnippetScope.Command
