/-
  SnippetScope.Outline

  The outline of a snippet: the names and constructs that its language's
  patterns find once the comments are gone.
-/
import SnippetScope.Language.Comments
import SnippetScope.Language.Constructs
import SnippetScope.Text.Lines

namespace SnippetScope

/-- What a snippet declares and does, in the order of its text. -/
structure Outline where
  language : Language
  /-- The text as given. -/
  given : String
  /-- The text without comments, on which all that follows rests. -/
  stripped : String
  /-- Lines of the text as given, the one after a final line feed included. -/
  lines : Nat
  functions : List String
  variableNames : List String
  /-- The loop heads as they are written. -/
  loops : List String
  /-- The branch heads as they are written. -/
  conditionals : List String
  types : List String
  imports : List String
  /-- The number of declared arrays, lists, slices or vectors. -/
  sequences : Nat
  /-- The named containers that occur, in the language's order. -/
  containers : List String
  deriving DecidableEq, Repr

namespace Outline

/-- The name that a match gives, without blanks around it. -/
def givenName? (m : Pattern.Match) : Option String :=
  (m.name.map Text.trim).bind fun name =>
    if name.isEmpty then none else some (String.ofList name)

/-- The names given by the matches of a pattern. -/
def namesIn (pattern : Pattern) (text : List Char) : List String :=
  (pattern.findAll text).filterMap givenName?

/-- The matches of a pattern as they are written. -/
def writtenIn (pattern : Pattern) (text : List Char) : List String :=
  (pattern.findAll text).map fun m => String.ofList m.text

/-- The outline of a text in a language. -/
def ofText (language : Language) (text : String) : Outline :=
  let code := stripComments language text.toList
  let constructs := language.constructs
  { language
    given := text
    stripped := String.ofList code
    lines := (Text.splitAt '\n' text.toList).length
    functions := namesIn constructs.functions code
    variableNames := namesIn constructs.declarations code
    loops := writtenIn constructs.loops code
    conditionals := writtenIn constructs.conditionals code
    types := namesIn constructs.types code
    imports := namesIn constructs.imports code
    sequences := (constructs.sequences.map fun p => (p.findAll code).length).getD 0
    containers := (constructs.containers.filter fun named => named.2.isIn code).map (·.1) }

end Outline

end SnippetScope
