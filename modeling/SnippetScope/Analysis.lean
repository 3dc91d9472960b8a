/-
  SnippetScope.Analysis

  The analysis of a snippet: its language, outline, data structures and
  estimated complexity.
-/
import SnippetScope.Complexity
import SnippetScope.Language.Detection
import SnippetScope.Settings
import SnippetScope.Structure.Detection

namespace SnippetScope

/-- A snippet to be analysed. -/
structure Source where
  text : String
  /-- The file that the text comes from. -/
  fileName : Option String := none
  /-- The language to assume, whatever the text looks like. -/
  language : Option Language := none
  deriving DecidableEq, Repr

/-- What is found out about a snippet. -/
structure Analysis where
  path : Option String
  language : Language
  /-- The score of every language, in their order. -/
  scores : List (Language × Nat)
  outline : Outline
  structures : StructureSet
  complexity : Estimate
  deriving DecidableEq, Repr

/-- The language of a source: the one to assume, else the one that the
    settings give the file's extension, else the detected one. -/
def Source.resolveLanguage (settings : Settings) (source : Source) : Language :=
  match source.language with
  | some language => language
  | none =>
    let extension := source.fileName.bind fun f => FilePath.extension? f.toList
    match extension.bind fun e => settings.languageOf? (String.ofList e) with
    | some language => language
    | none => Language.detect source.text.toList source.fileName

namespace Analysis

/-- The analysis of a source under the settings. -/
def ofSource (settings : Settings) (source : Source) : Analysis :=
  let language := source.resolveLanguage settings
  let outline := Outline.ofText language source.text
  { path := source.fileName
    language
    scores := Language.scores source.text.toList
    outline
    structures := StructureSet.ofText source.text.toList
    complexity := Estimate.ofText source.text outline }

/-- The summary shown below the diagram of an analysis. -/
def summary (a : Analysis) : String :=
  a.complexity.summary a.language a.outline.lines

/-- The account of the complexity shown in reports. -/
def breakdown (a : Analysis) : String :=
  a.complexity.breakdown a.outline.lines

end Analysis

end SnippetScope
