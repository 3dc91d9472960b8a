/-
  SnippetScope.Command

  Running the commands of the program.
-/
import SnippetScope.Command.Init

namespace SnippetScope.Command

/-- A text filled up with spaces to a width. -/
def padded (width : Nat) (text : String) : String :=
  text ++ String.ofList (List.replicate (width - text.length) ' ')

/-- The line on a language: its two names and its extensions. -/
def languageLine (language : Language) : String :=
  "  " ++ padded 8 language.name ++ " " ++ padded 8 language.displayName ++ " "
    ++ " ".intercalate (language.extensions.map ("." ++ ·))

/-- The list of languages. -/
def languagesText : String :=
  linesText (["Supported languages (detection tie-break order):", ""]
    ++ Language.all.map languageLine
    ++ ["", "Usage:", "  codelens analyze <path> --language <name>"])

/-- Runs a command.  `capability` tells which text model settings give. -/
def Action.run (action : Action) (environment : Environment) (colours : Bool)
    (capability : ModelSettings → Docs.Capability) : Outcome :=
  match action with
  | .analyze options => options.run environment colours capability
  | .languages => { exitCode := 0, output := languagesText, tree := environment.tree }
  | .init output => runInit environment output

end SnippetScope.Command
