/-
  SnippetScope.Command.Init

  The command that writes a file with settings to start from.
-/
import SnippetScope.Command.Analyze

namespace SnippetScope.Command

/-- Settings to start from: the defaults, with comments. -/
def settingsTemplate : String := linesText [
  "# codelens configuration",
  "#",
  "# All keys are optional; the values below are the defaults.",
  "",
  "generation:",
  "  # Use the external text-generation backend when an API key is available.",
  "  # Without one, documentation and suggestions come from local templates.",
  "  enabled: true",
  "  model: gemini-2.0-flash-exp",
  "  endpoint: https://generativelanguage.googleapis.com/v1beta",
  "  # Environment variable that holds the API key.",
  "  api_key_env: GOOGLE_API_KEY",
  "  # Upper bound for a single generation request.",
  "  timeout_ms: 30000",
  "",
  "# Glob patterns for paths to skip when analyzing a directory.",
  "excluded_paths:",
  "  - \"**/target/**\"",
  "  - \"**/build/**\"",
  "",
  "# Extra file extension to language mappings, e.g. \x60ino: cpp\x60.",
  "extensions: \x7b\x7d",
  "",
  "# Where diagrams and saved documentation are written.",
  "# output_dir: ./codelens-out"]

/-- What is said once the file has been written.  It need not be named when it
    is found by itself. -/
def createdText (path : String) : String :=
  let discovered := match FilePath.fileName? path.toList with
    | some name => settingsNames.contains (String.ofList name)
    | none => false
  linesText [
    "Created " ++ path,
    "",
    "Next steps:",
    "  1. Edit " ++ path ++ " to customize generation and exclusions",
    "  2. Run: codelens analyze ." ++ (if discovered then "" else " --config " ++ path)]

/-- Makes the directories around a file, unless it lies in the working
    directory by its path. -/
def Environment.prepare (environment : Environment) (path : List Char) : FileTree.Changed :=
  match FilePath.parent? path with
  | some enclosing =>
    if FilePath.components enclosing = [] ∨ FilePath.components enclosing = [.here] then
      ⟨environment.tree, none⟩
    else environment.tree.ensurePath environment.here enclosing
  | none => ⟨environment.tree, none⟩

/-- Writes settings to a path that leads to nothing yet. -/
def runInit (environment : Environment) (path : String) : Outcome :=
  if environment.tree.reaches environment.here path.toList then
    environment.fail ["Error: file already exists: " ++ path,
      "Remove it or use --output to specify a different path"]
  else
    let prepared := environment.prepare path.toList
    let fail (message : String) : Outcome :=
      { exitCode := 2, messages := linesText ["Error: " ++ message], tree := prepared.tree }
    match prepared.fault with
    | some fault => fail ("failed to create directory: " ++ fault.message)
    | none =>
      match prepared.tree.writeText environment.here path.toList settingsTemplate with
      | .error fault => fail ("failed to write config: " ++ fault.message)
      | .ok tree => { exitCode := 0, output := createdText path, tree }

end SnippetScope.Command
