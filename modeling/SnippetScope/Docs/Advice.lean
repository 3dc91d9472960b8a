/-
  SnippetScope.Docs.Advice

  Suggestions that rest on simple signs in the text of a snippet.
-/
import SnippetScope.Text.Search

namespace SnippetScope.Docs

/-- The word stands in the text. -/
def mentions (text : String) (word : String) : Bool :=
  Text.occurs word.toList text.toList

/-- How often the word stands in the text. -/
def countOf (text : String) (word : String) : Nat :=
  Text.count word.toList text.toList

/-- The items, or a single one that stands for their absence. -/
def orElse (items : List String) (absence : String) : List String :=
  if items.isEmpty then [absence] else items

/-- The item if the condition holds. -/
def onlyIf (condition : Bool) (items : List String) : List String :=
  if condition then items else []

/-- Ways to restructure the text. -/
def refactorings (text : String) : List String :=
  orElse
    (onlyIf (countOf text "cout" > 3)
        ["Consider wrapping repeated cout statements in a function"]
      ++ onlyIf (mentions text "int main()" && countOf text "return" == 1)
        ["Consider adding error handling with different return codes"]
      ++ onlyIf (countOf text "for" ≥ 2)
        ["Consider extracting nested loops into separate functions"]
      ++ onlyIf (!mentions text "const" && !mentions text "auto")
        ["Consider using 'const' for immutable variables and 'auto' for type deduction"]
      ++ onlyIf (mentions text "#include <iostream>" && mentions text "using namespace std")
        ["Consider avoiding 'using namespace std' in larger projects"])
    "No obvious refactoring opportunities found"

/-- Ways to improve the text. -/
def improvements (text : String) : List String :=
  orElse
    (onlyIf (mentions text "int main()" && !mentions text "const")
        ["Use const for variables that don't change"]
      ++ onlyIf (countOf text "for" ≥ 2)
        ["Consider using range-based for loops where possible"]
      ++ onlyIf (mentions text "cout" && countOf text "endl" > 2)
        ["Consider using '\\n' instead of endl for better performance"]
      ++ onlyIf (mentions text "malloc" || mentions text "free")
        ["Use smart pointers instead of manual memory management"])
    "No obvious issues found"

/-- A heading with a bullet for each item. -/
def bulleted (heading : String) (items : List String) : String :=
  items.foldl (fun text item => text ++ "\n• " ++ item) heading

/-- The text that suggests ways to restructure. -/
def refactoringText (text : String) : String :=
  bulleted "REFACTORING SUGGESTIONS:" (refactorings text)

/-- The text that suggests ways to improve. -/
def improvementText (text : String) : String :=
  bulleted "IMPROVEMENT SUGGESTIONS:" (improvements text)

end SnippetScope.Docs
