/-
  SnippetScope.Settings.Validation

  Settings that make sense, and what they say about paths.
-/
import SnippetScope.Glob.Reading
import SnippetScope.Settings
import SnippetScope.Text.Quoted

namespace SnippetScope.Settings

/-- What is wrong with settings. -/
inductive Problem where
  | zeroTimeout
  | invalidPattern (pattern : String) (fault : Glob.Fault)
  | unknownLanguage (extension language : String)
  deriving DecidableEq, Repr

/-- The text of a fault in a pattern of paths. -/
def faultText (pattern : String) (fault : Glob.Fault) : String :=
  "error parsing glob '" ++ pattern ++ "': " ++ fault.message

/-- The text of a problem. -/
def Problem.message : Problem → String
  | zeroTimeout => "generation.timeout_ms must be greater than zero"
  | invalidPattern pattern fault =>
    "invalid excluded path pattern " ++ Text.quoted pattern ++ ": " ++ faultText pattern fault
  | unknownLanguage extension language =>
    "extension " ++ Text.quoted extension ++ " maps to unsupported language "
      ++ Text.quoted language

/-- The texts of a problem and of its cause, if it has one. -/
def Problem.chain (p : Problem) : List String :=
  match p with
  | invalidPattern pattern fault => [p.message, faultText pattern fault]
  | _ => [p.message]

/-- The problem of the first text that is no pattern. -/
def patternProblem? (patterns : List String) : Option Problem :=
  patterns.findSome? fun pattern =>
    match Glob.read pattern with
    | .ok _ => none
    | .error fault => some (.invalidPattern pattern fault)

/-- The problem of the first extension whose language is unknown. -/
def languageProblem? (extensions : List (String × String)) : Option Problem :=
  extensions.findSome? fun (extension, language) =>
    match Language.ofName? language with
    | some _ => none
    | none => some (.unknownLanguage extension language)

/-- The first problem of settings: the timeout, then the patterns, then the
    extensions. -/
def problem? (settings : Settings) : Option Problem :=
  if settings.generation.timeout = 0 then some .zeroTimeout
  else (patternProblem? settings.excludedPaths).or (languageProblem? settings.extensions)

/-- A path is left out when one of the patterns matches it; a text that is no
    pattern matches nothing. -/
def excludes (settings : Settings) (path : String) : Bool :=
  settings.excludedPaths.any fun pattern =>
    match Glob.read pattern with
    | .ok tokens => Glob.matchesPath tokens path
    | .error _ => false

end SnippetScope.Settings
