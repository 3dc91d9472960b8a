/-
  SnippetScope.Docs.Prompt

  What a text model is asked for: documentation, restructurings and
  improvements of a snippet.
-/
import SnippetScope.Docs.Template

namespace SnippetScope.Docs

/-- The text products of a snippet. -/
inductive Product where
  | documentation
  | refactoring
  | improvements
  deriving DecidableEq, Repr

namespace Product

/-- All products. -/
def all : List Product := [documentation, refactoring, improvements]

/-- The name of a product. -/
def name : Product → String
  | documentation => "documentation"
  | refactoring => "refactoring"
  | improvements => "improvements"

end Product

/-- The snippet as a block of code, marked with its language. -/
def codeBlock (outline : Outline) : String :=
  fence ++ outline.language.name ++ "\n" ++ outline.given ++ "\n" ++ fence

/-- The numbered headings that the documentation shall have. -/
def sectionList : String :=
  String.join (Section.all.zipIdx.map fun (part, i) => s!"{i + 1}. ## {part.title}\n")

/-- The request for documentation. -/
def documentationPrompt (outline : Outline) : String :=
  "Generate comprehensive markdown documentation for this "
    ++ s!"{outline.language.displayName} code:\n\n"
    ++ codeBlock outline ++ "\n\n"
    ++ "Use exactly these second-level sections, in this order:\n"
    ++ sectionList ++ "\n"
    ++ "Explain the algorithm step by step, describe every function with its "
    ++ "parameters and return values, give a brief time/space complexity "
    ++ "analysis, show example usage and list potential improvements.\n"
    ++ "Use proper markdown formatting with headers, code blocks and bullet points."

/-- The request for restructurings. -/
def refactoringPrompt (outline : Outline) : String :=
  let language := outline.language.displayName
  s!"Analyze the following {language} code and provide specific refactoring suggestions:\n\n"
    ++ codeBlock outline ++ "\n\n"
    ++ "Please provide:\n"
    ++ "1. Code structure improvements\n"
    ++ "2. Variable naming suggestions\n"
    ++ "3. Logic optimization opportunities\n"
    ++ s!"4. Modern {language} best practices\n"
    ++ "5. Specific code examples where applicable\n\n"
    ++ "Format as clear, actionable bullet points."

/-- The request for improvements. -/
def improvementPrompt (outline : Outline) : String :=
  let language := outline.language.displayName
  s!"Analyze this {language} code and provide specific, actionable improvement suggestions:\n\n"
    ++ codeBlock outline ++ "\n\n"
    ++ "Focus on:\n"
    ++ "1. **Performance Optimizations**: Specific ways to make it faster\n"
    ++ "2. **Memory Efficiency**: How to reduce memory usage\n"
    ++ "3. **Code Quality**: Better naming, structure, readability\n"
    ++ s!"4. **Language Features**: Modern {language} features that could help\n"
    ++ "5. **Security Considerations**: Potential security issues\n"
    ++ "6. **Error Handling**: How to make it more robust\n"
    ++ "7. **Best Practices**: Industry standard practices\n\n"
    ++ "Provide specific code examples where possible."

/-- The request for a product. -/
def Product.prompt (outline : Outline) : Product → String
  | documentation => documentationPrompt outline
  | refactoring => refactoringPrompt outline
  | improvements => improvementPrompt outline

/-- What stands in for a product when no model answers. -/
def Product.template (subject : Subject) : Product → String
  | documentation => subject.documentation
  | refactoring => refactoringText subject.outline.given
  | improvements => improvementText subject.outline.given

end SnippetScope.Docs
