/-
  SnippetScope.Docs.Template

  Documentation written from the analysis alone: a title, the sections in
  their fixed order, and a closing note.
-/
import SnippetScope.Complexity
import SnippetScope.Docs.Advice
import SnippetScope.Docs.Section
import SnippetScope.Language.Constructs
import SnippetScope.Pattern.Search
import SnippetScope.Structure
import SnippetScope.Text.Blank

namespace SnippetScope.Docs

/-- A backquote, which encloses code within a line. -/
def backquote : String := String.singleton (Char.ofNat 96)

/-- Code within a line. -/
def code (text : String) : String := backquote ++ text ++ backquote

/-- The mark that opens and closes a block of code. -/
def fence : String := backquote ++ backquote ++ backquote

/-- The word `return`, standing alone. -/
def returnWord : Pattern := .boundary ++ .text "return" ++ .boundary

/-- A name that starts a word, with the parenthesis after it; the text between
    the parentheses is what counts. -/
def parameterPattern (name : String) : Pattern :=
  .boundary ++ .text name ++ Constructs.gap ++ Constructs.mark '('
    ++ .naming (.longest (Pattern.noneOf ")") 0) ++ Constructs.mark ')'

/-- The parameters after the first place where the function's name is followed
    by a parenthesis, on one line and with single spaces. -/
def parameters? (text : String) (function : String) : Option String :=
  ((parameterPattern function).find? text.toList).bind fun m =>
    m.name.map fun inner => String.ofList (Text.squeeze inner)

/-- What the template is filled from. -/
structure Subject where
  outline : Outline
  complexity : Estimate
  structures : StructureSet
  deriving DecidableEq, Repr

namespace Subject

/-- The language's name as shown. -/
def languageName (s : Subject) : String := s.outline.language.displayName

/-- The snippet has a function called `main`. -/
def hasMain (s : Subject) : Bool := s.outline.functions.contains "main"

/-- The functions in the order in which they come first, without repeats. -/
def functionNames (s : Subject) : List String := s.outline.functions.eraseDups

/-- Lines on what the snippet is for. -/
def purpose (s : Subject) : List String :=
  let o := s.outline
  [if s.hasMain then
      s!"- Executable {s.languageName} program with a " ++ code "main" ++ " entry point"
    else if o.functions.isEmpty then s!"- {s.languageName} snippet without function definitions"
    else s!"- {s.languageName} code defining {o.functions.length} function(s)"]
  ++ onlyIf (!o.types.isEmpty)
    ["- Declares types: " ++ ", ".intercalate (o.types.map code)]
  ++ onlyIf (!s.structures.isEmpty)
    ["- Appears to work with: " ++ ", ".intercalate (s.structures.kinds.map (·.title))]

/-- Lines on loops and branches. -/
def algorithm (s : Subject) : List String :=
  let o := s.outline
  [s!"- **Loops**: {o.loops.length} loop(s) detected",
    s!"- **Conditionals**: {o.conditionals.length} conditional(s) detected"]
  ++ onlyIf (!o.loops.isEmpty) ["- Contains iterative logic"]
  ++ onlyIf (!o.conditionals.isEmpty) ["- Contains branching logic"]
  ++ onlyIf (o.loops.isEmpty && o.conditionals.isEmpty) ["- Straight-line code"]

/-- The heading of a function and its role. -/
def describeFunction (name : String) : List String :=
  ["", "### " ++ code (name ++ "()"),
    "- **Purpose**: " ++ (if name = "main" then "Main entry point" else "Utility function")]

/-- Lines on the functions. -/
def functions (s : Subject) : List String :=
  onlyIf s.outline.functions.isEmpty ["- No functions detected"]
    ++ s.functionNames.flatMap describeFunction

/-- The line on the parameters of a function. -/
def describeParameters (stripped : String) (name : String) : String :=
  "- " ++ code name ++ ": " ++
    match parameters? stripped name with
    | some list => if list.isEmpty then "no parameters" else code list
    | none => "no parameters"

/-- Lines on the parameters. -/
def parameters (s : Subject) : List String :=
  onlyIf s.outline.functions.isEmpty ["- None"]
    ++ s.functionNames.map (describeParameters s.outline.stripped)

/-- Lines on what is returned. -/
def returnValues (s : Subject) : List String :=
  [s!"- {(returnWord.findAll s.outline.stripped.toList).length} return statement(s) found"]
  ++ onlyIf (s.hasMain && (s.outline.language = .c || s.outline.language = .cpp))
    ["- " ++ code "main" ++ " returns an exit status to the operating system"]

/-- Lines on the estimated complexity. -/
def complexityLines (s : Subject) : List String :=
  ["- **Estimated Time Complexity**: " ++ s.complexity.time.label,
    "- **Estimated Space Complexity**: " ++ s.complexity.space.label,
    s!"- {s.complexity.loops} loop keyword(s), maximum brace nesting {s.complexity.depth}"]

/-- How a program of the language is run. -/
def runCommand (language : Language) : String :=
  match language with
  | .cpp => "g++ -o program main.cpp && ./program"
  | .c => "gcc -o program main.c && ./program"
  | .python => "python3 main.py"
  | .java => "javac Main.java && java Main"
  | .go => "go run main.go"
  | .rust => "rustc main.rs && ./main"

/-- A block that shows how to run the snippet.  Without an entry point it can
    be run only in a language that needs none. -/
def usage (s : Subject) : List String :=
  [fence ++ "sh",
    if s.hasMain || s.outline.language = .python then runCommand s.outline.language
      else "# no entry point found; call these functions from your own code",
    fence]

/-- Lines on possible improvements. -/
def improvementLines (s : Subject) : List String :=
  (Docs.improvements s.outline.given).map ("- " ++ ·)
  ++ onlyIf (s.complexity.time = .quadratic)
    ["- Nested loops dominate the running time; consider a better algorithm"]

/-- The lines of a section below its heading. -/
def body (s : Subject) : Section → List String
  | .purpose => s.purpose
  | .algorithm => s.algorithm
  | .functions => s.functions
  | .parameters => s.parameters
  | .returnValues => s.returnValues
  | .complexity => s.complexityLines
  | .usage => s.usage
  | .improvements => s.improvementLines

/-- The title and the counts below it. -/
def opening (s : Subject) : List String :=
  [s!"# {s.languageName} Code Documentation", "",
    s!"**Lines of Code**: {s.outline.lines}",
    s!"**Functions**: {s.outline.functions.length}",
    s!"**Variables**: {s.outline.variableNames.length}"]

/-- All lines of the documentation. -/
def documentationLines (s : Subject) : List String :=
  s.opening
    ++ Section.all.flatMap (fun part => "" :: ("## " ++ part.title) :: s.body part)
    ++ ["", "---", "*Generated by codelens (template mode)*"]

/-- The documentation, each line ended by a line feed. -/
def documentation (s : Subject) : String :=
  String.join (s.documentationLines.map (· ++ "\n"))

end Subject

end SnippetScope.Docs
