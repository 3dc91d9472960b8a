/-
  SnippetScope.Proofs.Analysis.Precedence

  What settles the language of a source: the language to assume, then the
  extension of its file, first by the settings and then by the built-in
  extensions, then the keywords.  A name in the settings that means no language
  counts as no name, so each way is taken only where all before it are closed
  (`language_ofSource_iff`).
-/
import SnippetScope.Analysis
import SnippetScope.Proofs.Language.Extension
import SnippetScope.Proofs.Language.Scores

namespace SnippetScope

open SnippetScope.Language (extensionKey IsFirstBest keywordPlaces)

/-! ## Built-in extensions -/

namespace Language

theorem eq_of_mem_extensions {a b : Language} {extension : String}
    (ha : extension ∈ a.extensions) (hb : extension ∈ b.extensions) : a = b := by
  have hdistinct : ∀ e ∈ a.extensions, e ∈ b.extensions → a = b := by
    cases a <;> cases b <;> decide
  exact hdistinct extension ha hb

/-- An extension announces the one language that lists its key. -/
theorem ofExtension?_eq_some_iff {extension : String} {language : Language} :
    ofExtension? extension = some language ↔ extensionKey extension ∈ language.extensions := by
  constructor
  · intro h
    simpa using List.find?_some h
  · intro h
    cases hfind : ofExtension? extension with
    | none =>
        have hnone := List.find?_eq_none.mp hfind language (mem_all language)
        simp [h] at hnone
    | some found =>
        have hfound : extensionKey extension ∈ found.extensions := by
          simpa using List.find?_some hfind
        rw [eq_of_mem_extensions hfound h]

theorem ofExtension?_eq_none_iff {extension : String} :
    ofExtension? extension = none ↔ ∀ language, extensionKey extension ∉ extensions language := by
  rw [Option.eq_none_iff_forall_ne_some]
  exact forall_congr' fun language => not_congr ofExtension?_eq_some_iff

end Language

/-! ## The ways to a language -/

/-- The settings give the language for extensions with the key. -/
def Settings.Names (settings : Settings) (key : String) (language : Language) : Prop :=
  ∃ name, settings.extensions.lookup key = some name ∧ Language.ofName? name = some language

namespace Source

/-- The key of the extension that the source's file name has, if it has one. -/
def extensionKey? (source : Source) : Option String :=
  (source.fileName.bind fun name => FilePath.extension? name.toList).map fun extension =>
    extensionKey (String.ofList extension)

/-- The number of occurrences of the language's keywords in the source. -/
def occurrences (source : Source) (language : Language) : Nat :=
  (keywordPlaces source.text.toList language).card

/-- What makes a language that of a source. -/
inductive HasLanguage (settings : Settings) (source : Source) : Language → Prop where
  /-- It is the one to assume. -/
  | assumed {language : Language} (hassumed : source.language = some language) :
      HasLanguage settings source language
  /-- The settings give it for the extension. -/
  | configured {key : String} {language : Language} (hassumed : source.language = none)
      (hkey : source.extensionKey? = some key) (hnamed : settings.Names key language) :
      HasLanguage settings source language
  /-- The extension is one of its own, and the settings give none for it. -/
  | announced {key : String} {language : Language} (hassumed : source.language = none)
      (hkey : source.extensionKey? = some key) (hnamed : ∀ other, ¬ settings.Names key other)
      (hlisted : key ∈ language.extensions) : HasLanguage settings source language
  /-- Its keywords occur most often, and nothing is known of an extension. -/
  | detected {language : Language} (hassumed : source.language = none)
      (hunknown : ∀ key, source.extensionKey? = some key →
        (∀ other, ¬ settings.Names key other) ∧ ∀ other, key ∉ Language.extensions other)
      (hbest : IsFirstBest source.occurrences language) : HasLanguage settings source language

/-! ## The chain of lookups -/

variable {settings : Settings} {source : Source} {language : Language}

/-- The language that the settings give for extensions with the key. -/
def named? (settings : Settings) (key : String) : Option Language :=
  (settings.extensions.lookup key).bind Language.ofName?

theorem named?_eq_some_iff {key : String} :
    named? settings key = some language ↔ settings.Names key language := by
  rw [named?, Option.bind_eq_some_iff]
  rfl

theorem named?_eq_none_iff {key : String} :
    named? settings key = none ↔ ∀ other, ¬ settings.Names key other := by
  rw [Option.eq_none_iff_forall_ne_some]
  exact forall_congr' fun other => not_congr named?_eq_some_iff

/-- A name in the settings that means no language is passed over, as if there
    were none. -/
theorem resolveLanguage_of_key {key : String} (hassumed : source.language = none)
    (hkey : source.extensionKey? = some key) :
    source.resolveLanguage settings
      = ((named? settings key).or (Language.ofExtension? key)).getD
          (Language.ofScores source.text.toList) := by
  rw [extensionKey?, Option.map_eq_some_iff] at hkey
  obtain ⟨extension, hextension, rfl⟩ := hkey
  -- The built-in extensions are looked up by the same key, once behind the settings and once
  -- before the keywords.
  have hbuiltIn : Language.ofExtension? (extensionKey (String.ofList extension))
      = Language.ofExtension? (String.ofList extension) :=
    Language.ofExtension?_extensionKey _
  have hdetect : Language.detect source.text.toList source.fileName
      = (Language.ofExtension? (String.ofList extension)).getD
          (Language.ofScores source.text.toList) := by
    obtain ⟨name, hname, hextension⟩ := Option.bind_eq_some_iff.mp hextension
    simp only [Language.detect, Language.ofFileName?, hname, Option.bind_some, hextension]
  rw [resolveLanguage, hassumed, hbuiltIn]
  simp only [hextension, Option.bind_some, hdetect, Settings.languageOf?, named?, hbuiltIn]
  cases settings.extensions.lookup (extensionKey (String.ofList extension)) with
  | none =>
      cases Language.ofExtension? (String.ofList extension) with
      | none => rfl
      | some found => rfl
  | some name =>
      simp only [Option.bind_some]
      cases Language.ofName? name with
      | none => rfl
      | some found => rfl

theorem resolveLanguage_of_no_key (hassumed : source.language = none)
    (hkey : source.extensionKey? = none) :
    source.resolveLanguage settings = Language.ofScores source.text.toList := by
  rw [extensionKey?, Option.map_eq_none_iff] at hkey
  have hname : source.fileName.bind Language.ofFileName? = none := by
    cases hfile : source.fileName with
    | none => rfl
    | some name =>
        rw [hfile, Option.bind_some] at hkey
        rw [Option.bind_some, Language.ofFileName?, hkey]
        rfl
  rw [resolveLanguage, hassumed]
  simp only [hkey, Option.bind_none, Language.detect, hname, Option.getD_none]

theorem occurrences_eq_score (source : Source) :
    source.occurrences = Language.score source.text.toList :=
  funext fun language => (Language.score_eq_card _ language).symm

theorem isFirstBest_ofScores (source : Source) :
    IsFirstBest source.occurrences (Language.ofScores source.text.toList) := by
  rw [occurrences_eq_score]
  exact Language.isFirstBest_ofScores _

theorem extensionKey_of_key {key : String} (hkey : source.extensionKey? = some key) :
    extensionKey key = key := by
  obtain ⟨extension, -, rfl⟩ := Option.map_eq_some_iff.mp hkey
  exact (Language.isKey_extensionKey _).extensionKey_eq

theorem ofExtension?_key_eq_some_iff {key : String} (hkey : source.extensionKey? = some key) :
    Language.ofExtension? key = some language ↔ key ∈ language.extensions := by
  rw [Language.ofExtension?_eq_some_iff, extensionKey_of_key hkey]

theorem ofExtension?_key_eq_none_iff {key : String} (hkey : source.extensionKey? = some key) :
    Language.ofExtension? key = none ↔ ∀ other, key ∉ Language.extensions other := by
  rw [Language.ofExtension?_eq_none_iff, extensionKey_of_key hkey]

/-- One of the ways is open, and it leads to the language that is found. -/
theorem hasLanguage_resolveLanguage (settings : Settings) (source : Source) :
    source.HasLanguage settings (source.resolveLanguage settings) := by
  -- The lookups are tried in their order, and the first one that answers decides.
  cases hassumed : source.language with
  | some language =>
      have hfound : source.resolveLanguage settings = language := by
        rw [resolveLanguage, hassumed]
      rw [hfound]
      exact .assumed hassumed
  | none =>
      cases hkey : source.extensionKey? with
      | none =>
          rw [resolveLanguage_of_no_key hassumed hkey]
          refine .detected hassumed (fun key h => ?_) source.isFirstBest_ofScores
          rw [hkey] at h
          cases h
      | some key =>
          rw [resolveLanguage_of_key hassumed hkey]
          cases hnamed : named? settings key with
          | some language => exact .configured hassumed hkey (named?_eq_some_iff.mp hnamed)
          | none =>
              have hunnamed := named?_eq_none_iff.mp hnamed
              cases hbuiltIn : Language.ofExtension? key with
              | some language =>
                  exact .announced hassumed hkey hunnamed
                    ((ofExtension?_key_eq_some_iff hkey).mp hbuiltIn)
              | none =>
                  refine .detected hassumed (fun other h => ?_) source.isFirstBest_ofScores
                  obtain rfl : key = other := Option.some.inj (hkey.symm.trans h)
                  exact ⟨hunnamed, (ofExtension?_key_eq_none_iff hkey).mp hbuiltIn⟩

/-- Whichever way is taken, it leads to the language that is found. -/
theorem HasLanguage.resolveLanguage_eq (h : source.HasLanguage settings language) :
    source.resolveLanguage settings = language := by
  cases h with
  | assumed hassumed => rw [resolveLanguage, hassumed]
  | configured hassumed hkey hnamed =>
      rw [resolveLanguage_of_key hassumed hkey, named?_eq_some_iff.mpr hnamed]
      rfl
  | announced hassumed hkey hunnamed hlisted =>
      rw [resolveLanguage_of_key hassumed hkey, named?_eq_none_iff.mpr hunnamed,
        (ofExtension?_key_eq_some_iff hkey).mpr hlisted]
      rfl
  | detected hassumed hunknown hbest =>
      have hfound : source.resolveLanguage settings = Language.ofScores source.text.toList := by
        cases hkey : source.extensionKey? with
        | none => exact resolveLanguage_of_no_key hassumed hkey
        | some key =>
            obtain ⟨hunnamed, hunlisted⟩ := hunknown key hkey
            rw [resolveLanguage_of_key hassumed hkey, named?_eq_none_iff.mpr hunnamed,
              (ofExtension?_key_eq_none_iff hkey).mpr hunlisted]
            rfl
      rw [hfound]
      exact source.isFirstBest_ofScores.unique hbest

end Source

/-- The language of an analysis is the one to assume; else the one that the
    settings give for the extension of the file; else the one that has the
    extension among its own; else the first one whose keywords occur most
    often.  The scores are the numbers of these occurrences. -/
theorem Analysis.language_ofSource_iff (settings : Settings) (source : Source) :
    (∀ language, (ofSource settings source).language = language
        ↔ source.HasLanguage settings language)
      ∧ (ofSource settings source).scores
          = Language.all.map fun language =>
              (language, (keywordPlaces source.text.toList language).card) := by
  refine ⟨fun language => ⟨?_, Source.HasLanguage.resolveLanguage_eq⟩, ?_⟩
  · rintro rfl
    exact source.hasLanguage_resolveLanguage settings
  · rw [ofSource, Language.scores]
    exact List.map_congr_left fun language _ => by rw [Language.score_eq_card]

end SnippetScope
