/-
  SnippetScope.Command.Line

  The commands of the program and the command lines that ask for them.
-/
import SnippetScope.Command.Arguments

namespace SnippetScope.Command

/-- What is to be analysed, and what is to be made of it. -/
structure AnalyzeOptions where
  /-- A file, a directory, or a hyphen for the standard input. -/
  path : String
  language : Option String := none
  format : String := "pretty"
  settings : Option String := none
  /-- Where to write the diagram of the data structures. -/
  diagram : Option String := none
  /-- Where to write the chart of the complexity. -/
  chart : Option String := none
  docs : Bool := false
  offline : Bool := false
  /-- Where to write the documents. -/
  saveDocs : Option String := none
  deriving DecidableEq, Repr

/-- A command of the program. -/
inductive Action where
  | analyze (options : AnalyzeOptions)
  | languages
  | init (output : String)
  deriving DecidableEq, Repr

/-! ## What the commands take -/

/-- Flags that every command knows. -/
def commonRules : List Rule := [
  { name := "verbose", short := some 'v', purpose := .flag },
  { name := "help", short := some 'h', purpose := .help }]

/-- What may stand before the name of a command. -/
def programRules : Rules where
  options := commonRules ++ [{ name := "version", short := some 'V', purpose := .version }]

/-- What stands after the name of the command that analyses. -/
def analyzeRules : Rules where
  options := commonRules ++ [
    { name := "language", short := some 'l', purpose := .text },
    { name := "format", short := some 'f', purpose := .text },
    { name := "config", short := some 'c', purpose := .path },
    { name := "render", purpose := .path },
    { name := "complexity-chart", purpose := .path },
    { name := "docs", purpose := .flag },
    { name := "offline", purpose := .flag },
    { name := "save-docs", purpose := .path }]
  operand := some { name := "path", purpose := .path }

/-- What stands after the name of the command that lists the languages. -/
def languagesRules : Rules where
  options := commonRules

/-- What stands after the name of the command that writes settings. -/
def initRules : Rules where
  options := commonRules ++ [{ name := "output", short := some 'o', purpose := .path }]

/-! ## Commands -/

/-- The command that analyses, with its arguments. -/
def readAnalyze (arguments : List String) : Except Stop Action := do
  let given ← analyzeRules.read arguments
  return .analyze {
    path := (valueOf? "path" given).getD ""
    language := valueOf? "language" given
    format := (valueOf? "format" given).getD "pretty"
    settings := valueOf? "config" given
    diagram := valueOf? "render" given
    chart := valueOf? "complexity-chart" given
    docs := (valueOf? "docs" given).isSome
    offline := (valueOf? "offline" given).isSome
    saveDocs := valueOf? "save-docs" given }

/-- The command that writes settings, with its arguments. -/
def readInit (arguments : List String) : Except Stop Action := do
  let given ← initRules.read arguments
  return .init ((valueOf? "output" given).getD "codelens.yaml")

/-- The command that lists the languages, with its arguments. -/
def readLanguages (arguments : List String) : Except Stop Action := do
  let _ ← languagesRules.read arguments
  return .languages

/-- A request for help on a command. -/
def readHelp : List String → Stop
  | [] => .help
  | [name] => if ["analyze", "languages", "init", "help"].contains name then .help
              else .unknownCommand
  | _ => .unknownCommand

/-- The names of commands. -/
def isCommandName (text : String) : Bool :=
  ["analyze", "languages", "init", "help"].contains text

/-- The command that a name and its arguments ask for. -/
def readNamed (name : String) (arguments : List String) : Except Stop Action :=
  if name = "analyze" then readAnalyze arguments
  else if name = "languages" then readLanguages arguments
  else if name = "init" then readInit arguments
  else .error (readHelp arguments)

/-- Reads the arguments up to the name of a command. -/
def readFrom (r : Reading) : List String → Except Stop Action
  | [] => .error (if r.given.isEmpty then .nothingGiven else .missingCommand)
  | argument :: rest =>
    if isCommandName argument then
      if r.literal then .error .unknownArgument else readNamed argument rest
    else if r.literal || argument = "-" || !argument.toList.head? == some '-' then
      .error .unknownCommand
    else match r.take programRules argument with
      | .ok r => readFrom r rest
      | .error stop => .error stop

/-- The command that the arguments of the program ask for. -/
def ofArguments (arguments : List String) : Except Stop Action :=
  readFrom .start arguments

end SnippetScope.Command
