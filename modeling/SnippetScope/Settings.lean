/-
  SnippetScope.Settings

  What a user can set: the text model to ask, the paths to leave out, further
  file name extensions and the directory for what is written.
-/
import SnippetScope.Language

namespace SnippetScope

/-- Settings of the text model. -/
structure ModelSettings where
  enabled : Bool := true
  model : String := "gemini-2.0-flash-exp"
  endpoint : String := "https://generativelanguage.googleapis.com/v1beta"
  /-- The environment variable that holds the key. -/
  keyVariable : String := "GOOGLE_API_KEY"
  /-- How long one request may take, in milliseconds. -/
  timeout : Nat := 30000
  deriving DecidableEq, Repr

/-- All settings; each has a default. -/
structure Settings where
  generation : ModelSettings := {}
  /-- Patterns of paths to leave out of a directory. -/
  excludedPaths : List String := []
  /-- Names of languages by extension, in the order of the extensions. -/
  extensions : List (String × String) := []
  /-- The directory for what is written, if one is set. -/
  outputDir : Option String := none
  deriving DecidableEq, Repr

namespace Settings

/-- Puts a value under a key into a list that is ordered by its keys; a value
    already there is replaced. -/
def putOrdered (key value : String) : List (String × String) → List (String × String)
  | [] => [(key, value)]
  | (k, v) :: rest =>
    if key = k then (key, value) :: rest
    else if key < k then (key, value) :: (k, v) :: rest
    else (k, v) :: putOrdered key value rest

/-- Pairs in the order of their keys; of several values the last one stays. -/
def orderedPairs (pairs : List (String × String)) : List (String × String) :=
  pairs.foldl (fun ordered pair => putOrdered pair.1 pair.2 ordered) []

/-- The language of a file name extension.  A set name counts before the
    built-in table, also when it names no language. -/
def languageOf? (settings : Settings) (extension : String) : Option Language :=
  let key := Language.extensionKey extension
  match settings.extensions.lookup key with
  | some name => Language.ofName? name
  | none => Language.ofExtension? key

/-- The directory for what is written. -/
def directory (settings : Settings) : String :=
  settings.outputDir.getD "."

end Settings

end SnippetScope
