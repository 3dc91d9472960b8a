/-
  SnippetScope.Command.Outcome

  Where a command runs and what comes of it.
-/
import SnippetScope.FileTree.Change

namespace SnippetScope.Command

/-- What a command finds when it starts. -/
structure Environment where
  tree : FileTree
  /-- The working directory. -/
  here : FileTree.Location
  /-- The bytes of the standard input. -/
  input : ByteArray := .empty
  /-- The path of the user's own settings. -/
  userSettings : Option (List Char) := none

/-- What a command leaves behind. -/
structure Outcome where
  exitCode : Nat
  /-- The text on the standard output. -/
  output : String := ""
  /-- The text on the standard error output. -/
  messages : String := ""
  tree : FileTree

/-- Texts as lines. -/
def linesText (lines : List String) : String :=
  String.join (lines.map (· ++ "\n"))

/-- A failure with its message; nothing has been changed. -/
def Environment.fail (environment : Environment) (lines : List String) : Outcome where
  exitCode := 2
  messages := linesText lines
  tree := environment.tree

end SnippetScope.Command
