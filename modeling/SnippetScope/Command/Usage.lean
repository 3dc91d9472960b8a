/-
  SnippetScope.Command.Usage

  What is said when no command is carried out.
-/
import SnippetScope.Command.Line
import SnippetScope.Command.Outcome
import SnippetScope.Report.Record

namespace SnippetScope.Command

/-- How the program is used. -/
def usageText : String := linesText [
  "Heuristic code snippet analyzer",
  "",
  "Usage: codelens [OPTIONS] <COMMAND>",
  "",
  "Commands:",
  "  analyze <path>  Analyze a file, a directory, or - for stdin",
  "    -l, --language <name>      Treat the input as this language",
  "    -f, --format <name>        pretty, json, or markdown",
  "    -c, --config <path>        Settings file",
  "    --render <path>            Write a data structure diagram (SVG)",
  "    --complexity-chart <path>  Write a complexity growth chart (SVG)",
  "    --docs                     Generate documentation and suggestions",
  "    --offline                  Never ask a text model",
  "    --save-docs <path>         Save the documentation as markdown",
  "  languages       List supported languages",
  "  init            Write a default settings file",
  "    -o, --output <path>        Where to write it",
  "",
  "Options:",
  "  -v, --verbose  Enable debug logging",
  "  -h, --help     Print help",
  "  -V, --version  Print version"]

/-- What is wrong with a command line, if anything. -/
def Stop.problem? : Stop → Option String
  | unknownArgument => some "unexpected argument"
  | unknownCommand => some "unrecognized command"
  | missingCommand => some "a command is required"
  | missingArgument => some "a path is required"
  | invalidValue => some "a value is required"
  | givenTwice => some "an argument cannot be used twice"
  | valueForFlag => some "a flag takes no value"
  | help | version | nothingGiven => none

/-- What is said at a stop. -/
def Stop.text (stop : Stop) : String :=
  match stop, stop.problem? with
  | version, _ => "codelens " ++ Report.version ++ "\n"
  | _, some problem => "error: " ++ problem ++ "\n\nFor more information, try '--help'.\n"
  | _, none => usageText

end SnippetScope.Command
