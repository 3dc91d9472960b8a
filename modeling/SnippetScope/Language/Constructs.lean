/-
  SnippetScope.Language.Constructs

  What functions, variables, loops and other constructs look like in each
  language.  The patterns look at the surface only: in a C-like language
  every word before a parenthesis and an opening brace passes for a function.
-/
import SnippetScope.Language
import SnippetScope.Pattern
import SnippetScope.Unicode.Digit

namespace SnippetScope

open Unicode (isWord isBlank isDecimalDigit)
open Pattern (text one longest naming optional anyOf noneOf)

/-- The patterns of one language. -/
structure Constructs where
  functions : Pattern
  declarations : Pattern
  loops : Pattern
  conditionals : Pattern
  types : Pattern
  imports : Pattern
  /-- Declared arrays, lists, slices or vectors. -/
  sequences : Option Pattern
  /-- Named containers, in the order in which they are reported. -/
  containers : List (String × Pattern)

namespace Constructs

/-! ## Shared pieces -/

/-- A word. -/
def word : Pattern := longest isWord 1

/-- A word that gives the name of the construct. -/
def nameWord : Pattern := naming word

/-- Blanks, or nothing. -/
def gap : Pattern := longest isBlank 0

/-- At least one blank. -/
def blanks : Pattern := longest isBlank 1

/-- One given character. -/
def mark (c : Char) : Pattern := one (· == c)

/-- A parenthesis up to the next closing one. -/
def parenthesized : Pattern := mark '(' ++ longest (noneOf ")") 0 ++ mark ')'

/-- The rest of a line. -/
def onLine : Pattern := longest (· != '\n') 0

/-- A generic type with one argument. -/
def genericOne (name : String) : Pattern :=
  text name ++ gap ++ mark '<' ++ gap ++ word ++ gap ++ mark '>'

/-- A generic type with two arguments. -/
def genericTwo (name : String) : Pattern :=
  text name ++ gap ++ mark '<' ++ gap ++ word ++ gap ++ mark ',' ++ gap ++ word ++ gap ++ mark '>'

/-- A loop or branch with a parenthesized head. -/
def headed (keyword : String) : Pattern := text keyword ++ gap ++ parenthesized

/-- A keyword and the name after it. -/
def declared (keyword : String) : Pattern := text keyword ++ blanks ++ nameWord

/-- A function with an optional type in front and its brace behind. -/
def bracedFunction : Pattern :=
  optional (word ++ blanks) ++ nameWord ++ gap ++ parenthesized ++ gap ++ mark '\x7b'

/-- Two words, the second of which is assigned or ends the statement. -/
def typedVariable : Pattern :=
  word ++ blanks ++ nameWord ++ gap ++ one (anyOf ";=")

/-- An included header. -/
def includedHeader : Pattern :=
  text "#include" ++ gap ++ one (anyOf "<\"") ++ naming (longest (noneOf ">\"") 1)
    ++ one (anyOf ">\"")

/-- An array with an optional length. -/
def declaredArray : Pattern :=
  word ++ blanks ++ word ++ gap ++ mark '[' ++ gap ++ longest isDecimalDigit 0 ++ gap ++ mark ']'

/-! ## The languages -/

/-- Constructs of C++. -/
def cpp : Constructs where
  functions := bracedFunction
  declarations := typedVariable
  loops := headed "for" <|> headed "while"
  conditionals := headed "if"
  types := declared "class"
  imports := includedHeader
  sequences := some declaredArray
  containers := [
    ("vector", genericOne "vector"),
    ("stack", genericOne "stack"),
    ("queue", genericOne "queue"),
    ("map", genericTwo "map"),
    ("set", genericOne "set")]

/-- Constructs of C. -/
def c : Constructs where
  functions := bracedFunction
  declarations := typedVariable
  loops := headed "for" <|> headed "while"
  conditionals := headed "if"
  types := declared "struct"
  imports := includedHeader
  sequences := some declaredArray
  containers := []

/-- Constructs of Python. -/
def python : Constructs where
  functions := text "def" ++ blanks ++ nameWord ++ gap ++ parenthesized ++ mark ':'
  declarations := nameWord ++ gap ++ mark '=' ++ gap
  loops :=
    (text "for" ++ blanks ++ word ++ blanks ++ text "in" ++ blanks) <|> (text "while" ++ blanks)
  conditionals := (text "if" ++ blanks) <|> (text "elif" ++ blanks)
  types := declared "class"
  imports := declared "import" <|> (declared "from" ++ blanks ++ text "import")
  sequences := some (word ++ gap ++ mark '=' ++ gap ++ mark '[' ++ onLine ++ mark ']')
  containers := [
    ("list", mark '[' ++ onLine ++ mark ']'),
    ("dict", mark '\x7b' ++ onLine ++ mark ':' ++ onLine ++ mark '\x7d'),
    ("set", mark '\x7b' ++ onLine ++ mark '\x7d'),
    ("tuple", mark '(' ++ onLine ++ mark ',' ++ onLine ++ mark ')')]

/-- Constructs of Java. -/
def java : Constructs where
  functions :=
    optional (text "public" <|> text "private" <|> text "protected") ++ gap
      ++ optional (text "static") ++ gap ++ word ++ blanks ++ nameWord ++ gap
      ++ parenthesized ++ gap ++ mark '\x7b'
  declarations :=
    optional (text "public" <|> text "private" <|> text "protected") ++ gap
      ++ optional (text "static" <|> text "final") ++ gap ++ typedVariable
  loops := headed "for" <|> headed "while"
  conditionals := headed "if"
  types := optional (text "public" <|> text "private") ++ gap ++ declared "class"
  imports := text "import" ++ blanks ++ naming (longest (fun c => isWord c || c == '.') 1)
  sequences := some (word ++ gap ++ mark '[' ++ gap ++ mark ']' ++ gap ++ word)
  containers := [
    ("ArrayList", genericOne "ArrayList"),
    ("HashMap", genericTwo "HashMap"),
    ("Stack", genericOne "Stack"),
    ("Queue", genericOne "Queue")]

/-- Constructs of Go. -/
def go : Constructs where
  functions :=
    text "func" ++ blanks
      ++ optional (mark '(' ++ word ++ blanks ++ optional (mark '*') ++ word ++ mark ')' ++ blanks)
      ++ nameWord ++ gap ++ parenthesized
  declarations := declared "var" <|> (nameWord ++ gap ++ text ":=")
  loops := (text "for" ++ blanks) <|> (text "range" ++ blanks)
  conditionals := text "if" ++ blanks
  types := declared "type" ++ blanks ++ text "struct"
  imports :=
    (text "import" ++ blanks ++ mark '"' ++ naming (longest (noneOf "\"") 1) ++ mark '"')
      <|> declared "import"
  sequences := some (word ++ blanks ++ text "[]" ++ word)
  containers := [
    ("slice", text "[]" ++ word),
    ("map", text "map" ++ gap ++ mark '[' ++ gap ++ word ++ gap ++ mark ']' ++ gap ++ word),
    ("channel", text "chan" ++ blanks ++ word)]

/-- Constructs of Rust. -/
def rust : Constructs where
  functions := text "fn" ++ blanks ++ nameWord ++ gap ++ parenthesized
  declarations := text "let" ++ blanks ++ optional (text "mut" ++ blanks) ++ nameWord
  loops :=
    (text "for" ++ blanks ++ word ++ blanks ++ text "in" ++ blanks) <|> (text "while" ++ blanks)
      <|> (text "loop" ++ gap ++ mark '\x7b')
  conditionals := (text "if" ++ blanks) <|> (text "match" ++ blanks)
  types := declared "struct"
  imports := text "use" ++ blanks ++ naming (longest (fun c => isWord c || c == ':') 1)
  sequences := some (genericOne "Vec")
  containers := [
    ("Vec", genericOne "Vec"),
    ("HashMap", genericTwo "HashMap"),
    ("BTreeMap", genericTwo "BTreeMap")]

end Constructs

/-- The patterns of a language. -/
def Language.constructs : Language → Constructs
  | .cpp => .cpp
  | .python => .python
  | .java => .java
  | .c => .c
  | .go => .go
  | .rust => .rust

end SnippetScope
