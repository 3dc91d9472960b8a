/-
  SnippetScope.Language.Detection

  Guessing the language of a text from its file name or, failing that, from
  how often the keywords of each language occur in it.
-/
import SnippetScope.FilePath
import SnippetScope.Language
import SnippetScope.Text.Search

namespace SnippetScope.Language

/-- How often the keywords of the language occur in the text. -/
def score (text : List Char) (language : Language) : Nat :=
  (language.keywords.map fun word => Text.count word.toList text).foldl (· + ·) 0

/-- The score of every language, in the order of `all`. -/
def scores (text : List Char) : List (Language × Nat) :=
  all.map fun language => (language, score text language)

/-- The better of two scored languages; the first wins a tie. -/
def better (a b : Language × Nat) : Language × Nat :=
  if a.2 < b.2 then b else a

/-- The first language with the highest score. -/
def ofScores (text : List Char) : Language :=
  ((scores text).foldl better (cpp, 0)).1

/-- The language that the extension of a file name announces. -/
def ofFileName? (fileName : String) : Option Language :=
  (FilePath.extension? fileName.toList).bind fun e => ofExtension? (String.ofList e)

/-- The language of a text.  A file name that announces one settles it. -/
def detect (text : List Char) (fileName : Option String) : Language :=
  (fileName.bind ofFileName?).getD (ofScores text)

end SnippetScope.Language
