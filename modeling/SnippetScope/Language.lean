/-
  SnippetScope.Language

  The six languages whose snippets are analysed, with their names, the file
  name extensions that announce them and the keywords that give them away.
-/
import SnippetScope.Text.Blank
import SnippetScope.Unicode.LowerCase

namespace SnippetScope

/-- A language of the analysed snippets. -/
inductive Language where
  | cpp
  | python
  | java
  | c
  | go
  | rust
  deriving DecidableEq, Repr

namespace Language

/-- All languages.  Earlier ones win ties. -/
def all : List Language := [cpp, python, java, c, go, rust]

/-- The place of a language in `all`. -/
def index : Language → Nat
  | cpp => 0
  | python => 1
  | java => 2
  | c => 3
  | go => 4
  | rust => 5

/-- The name used in reports and settings. -/
def name : Language → String
  | cpp => "cpp"
  | python => "python"
  | java => "java"
  | c => "c"
  | go => "go"
  | rust => "rust"

/-- The name shown to readers. -/
def displayName : Language → String
  | cpp => "C++"
  | python => "Python"
  | java => "Java"
  | c => "C"
  | go => "Go"
  | rust => "Rust"

/-- The file name extensions that announce the language, without the dot. -/
def extensions : Language → List String
  | cpp => ["cpp", "cc", "cxx", "hpp", "hh", "hxx"]
  | python => ["py", "pyw"]
  | java => ["java"]
  | c => ["c", "h"]
  | go => ["go"]
  | rust => ["rs"]

/-- Pieces of text whose number of occurrences is the language's score. -/
def keywords : Language → List String
  | cpp => ["#include", "using namespace", "cout", "cin", "std::"]
  | python => ["def ", "import ", "from ", "class ", "elif", "None", "True", "False"]
  | java => ["public class", "private ", "public ", "import java", "System.out"]
  | c => ["#include", "printf", "scanf", "malloc", "free"]
  | go => ["func ", "package ", "import ", "fmt.", "var "]
  | rust => ["fn ", "let ", "mut ", "impl ", "use ", "println!"]

/-- Names under which a user may ask for the language, in lower case. -/
def aliases : Language → List String
  | cpp => ["cpp", "c++", "cxx"]
  | python => ["python", "py"]
  | java => ["java"]
  | c => ["c"]
  | go => ["go", "golang"]
  | rust => ["rust", "rs"]

/-- The language that a user means; case and surrounding blanks are ignored. -/
def ofName? (given : String) : Option Language :=
  let key := String.ofList (Unicode.lowerCase (Text.trim given.toList))
  all.find? (·.aliases.contains key)

/-- An extension as tables list it: without leading dots, ASCII letters in
    lower case. -/
def extensionKey (extension : String) : String :=
  String.ofList ((extension.toList.dropWhile (· == '.')).map Char.toLower)

/-- The language that a file name extension announces. -/
def ofExtension? (extension : String) : Option Language :=
  all.find? (·.extensions.contains (extensionKey extension))

end Language

end SnippetScope
