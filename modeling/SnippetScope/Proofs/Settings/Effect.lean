/-
  SnippetScope.Proofs.Settings.Effect

  Which settings take effect.  Every pattern of valid settings can be read, so
  each of them leaves out the paths that it stands for.  An entry for an
  extension counts for all spellings of it if it is listed under its key, in
  the form in which extensions are looked up; listed in any other form it
  counts for none (`validSettings_effect`).
-/
import SnippetScope.Proofs.Glob.Matching
import SnippetScope.Proofs.Language.Extension
import SnippetScope.Settings.Validation
import Mathlib

namespace SnippetScope.Settings

open SnippetScope.Language (IsKey Spells extensionKey)

variable {settings : Settings}

/-! ## Valid settings -/

theorem problem?_eq_none_iff :
    settings.problem? = none ↔ settings.generation.timeout ≠ 0
      ∧ (∀ pattern ∈ settings.excludedPaths, ∃ tokens, Glob.read pattern = .ok tokens)
      ∧ ∀ e ∈ settings.extensions, ∃ language, Language.ofName? e.2 = some language := by
  have hpatterns : patternProblem? settings.excludedPaths = none ↔
      ∀ pattern ∈ settings.excludedPaths, ∃ tokens, Glob.read pattern = .ok tokens := by
    rw [patternProblem?, List.findSome?_eq_none_iff]
    refine forall₂_congr fun pattern _ => ?_
    cases Glob.read pattern <;> simp
  have hlanguages : languageProblem? settings.extensions = none ↔
      ∀ e ∈ settings.extensions, ∃ language, Language.ofName? e.2 = some language := by
    rw [languageProblem?, List.findSome?_eq_none_iff]
    refine forall₂_congr fun e _ => ?_
    obtain ⟨extension, name⟩ := e
    cases hname : Language.ofName? name <;> simp [hname]
  rw [problem?]
  split
  · rename_i htimeout
    simp [htimeout]
  · rename_i htimeout
    rw [Option.or_eq_none_iff, hpatterns, hlanguages]
    simp [htimeout]

/-! ## Patterns of paths -/

theorem excludes_iff {path : String} :
    settings.excludes path = true ↔ ∃ pattern ∈ settings.excludedPaths, ∃ tokens,
      Glob.read pattern = .ok tokens ∧ Glob.StandsFor tokens path := by
  rw [excludes, List.any_eq_true]
  refine exists_congr fun pattern => and_congr_right fun _ => ?_
  cases Glob.read pattern with
  | error fault => simp
  | ok tokens => simp [Glob.matchesPath_iff]

/-! ## Extensions -/

/-- No two entries are for spellings of one extension. -/
def DistinctExtensions (settings : Settings) : Prop :=
  (settings.extensions.map fun e => extensionKey e.1).Nodup

instance (settings : Settings) : Decidable settings.DistinctExtensions :=
  inferInstanceAs (Decidable (List.Nodup _))

variable {e : String × String}

/-- An entry that is listed under its key is found by it. -/
theorem lookup_of_isKey (hdistinct : settings.DistinctExtensions) (he : e ∈ settings.extensions)
    (hkey : IsKey e.1) : settings.extensions.lookup (extensionKey e.1) = some e.2 := by
  rw [hkey.extensionKey_eq]
  cases hlookup : settings.extensions.lookup e.1 with
  | none =>
      have hne := List.lookup_eq_none_iff.mp hlookup e he
      simp at hne
  | some name =>
      obtain ⟨before, behind, hsplit, -⟩ := List.lookup_eq_some_iff.mp hlookup
      have hmem : (e.1, name) ∈ settings.extensions := by
        rw [hsplit]
        simp
      rw [← List.inj_on_of_nodup_map hdistinct hmem he rfl]

/-- The key of an entry that is listed in another form finds nothing. -/
theorem lookup_of_not_isKey (hdistinct : settings.DistinctExtensions)
    (he : e ∈ settings.extensions) (hkey : ¬ IsKey e.1) :
    settings.extensions.lookup (extensionKey e.1) = none := by
  rw [List.lookup_eq_none_iff]
  intro p hp
  rw [bne_iff_ne]
  intro heq
  -- An entry under this key would be for the same extension, so it would be the entry itself.
  have hp_key : IsKey p.1 := heq ▸ Language.isKey_extensionKey e.1
  have hsame : p = e :=
    List.inj_on_of_nodup_map hdistinct hp he (hp_key.extensionKey_eq.trans heq.symm)
  exact hkey (hsame ▸ hp_key)

theorem languageOf?_of_spells {given : String} (h : Spells given e.1) :
    settings.languageOf? given = match settings.extensions.lookup (extensionKey e.1) with
      | some name => Language.ofName? name
      | none => Language.ofExtension? e.1 := by
  rw [languageOf?, h.extensionKey_eq]
  cases settings.extensions.lookup (extensionKey e.1) with
  | some name => rfl
  | none => exact Language.ofExtension?_extensionKey e.1

/-- What valid settings with one entry for each extension do.  A path is left
    out if and only if one of the patterns, all of which can be read, stands
    for it.  An entry listed under its key gives its language to every spelling
    of its extension; for those of an entry listed in another form the built-in
    languages count. -/
theorem validSettings_effect (hvalid : settings.problem? = none)
    (hdistinct : settings.DistinctExtensions) :
    (∀ path, settings.excludes path = true ↔ ∃ pattern ∈ settings.excludedPaths, ∃ tokens,
        Glob.read pattern = .ok tokens ∧ Glob.StandsFor tokens path)
      ∧ (∀ pattern ∈ settings.excludedPaths, ∃ tokens, Glob.read pattern = .ok tokens)
      ∧ ∀ e ∈ settings.extensions, ∃ language, Language.ofName? e.2 = some language
        ∧ (IsKey e.1 → ∀ given, Spells given e.1 → settings.languageOf? given = some language)
        ∧ (¬ IsKey e.1 → ∀ given, Spells given e.1 →
            settings.languageOf? given = Language.ofExtension? e.1) := by
  obtain ⟨-, hpatterns, hlanguages⟩ := problem?_eq_none_iff.mp hvalid
  refine ⟨fun path => excludes_iff, hpatterns, fun e he => ?_⟩
  obtain ⟨language, hlanguage⟩ := hlanguages e he
  refine ⟨language, hlanguage, fun hkey given hgiven => ?_, fun hkey given hgiven => ?_⟩
  · rw [languageOf?_of_spells hgiven, lookup_of_isKey hdistinct he hkey]
    exact hlanguage
  · rw [languageOf?_of_spells hgiven, lookup_of_not_isKey hdistinct he hkey]

/-- Settings with a pattern, an extension under its key, and one in capitals. -/
def sketches : Settings where
  excludedPaths := ["**/vendor/**"]
  extensions := [("PDE", "java"), ("ino", "cpp")]

theorem validSettings_effect_sketches :
    sketches.problem? = none ∧ sketches.DistinctExtensions
      ∧ (∃ tokens, Glob.read "**/vendor/**" = .ok tokens)
      ∧ sketches.languageOf? "..INO" = some .cpp ∧ sketches.languageOf? "PDE" = none := by
  have hvalid : sketches.problem? = none := by decide
  have hdistinct : sketches.DistinctExtensions := by decide
  obtain ⟨-, hpatterns, hlanguages⟩ := validSettings_effect hvalid hdistinct
  refine ⟨hvalid, hdistinct, hpatterns _ (by decide), ?_, ?_⟩
  · obtain ⟨language, hlanguage, hcounts, -⟩ := hlanguages ("ino", "cpp") (by decide)
    obtain rfl : language = .cpp := Option.some.inj (hlanguage.symm.trans (by decide))
    exact hcounts (by decide) "..INO" ⟨2, "INO".toList, by decide, by decide⟩
  · obtain ⟨-, -, -, hignored⟩ := hlanguages ("PDE", "java") (by decide)
    rw [hignored (by decide) "PDE" ⟨0, "PDE".toList, by decide, rfl⟩]
    decide

/-- Not every entry of valid settings counts: one in capitals finds nothing,
    not even for a file with the very same extension. -/
theorem capital_extension_without_effect :
    ¬ ∀ settings : Settings, settings.problem? = none → settings.DistinctExtensions →
      ∀ e ∈ settings.extensions, ∀ language, Language.ofName? e.2 = some language →
        settings.languageOf? e.1 = some language := by
  intro h
  have hcpp := h { extensions := [("INO", "cpp")] } (by decide) (by decide)
    ("INO", "cpp") (by decide) .cpp (by decide)
  revert hcpp
  decide

end SnippetScope.Settings
