/-
  SnippetScope.Command.Analyze

  The command that analyses snippets, reports on them and writes what is asked
  for.
-/
import SnippetScope.Command.Artifact
import SnippetScope.Command.Line
import SnippetScope.Command.Outcome
import SnippetScope.FileTree.Walk
import SnippetScope.Report.Pretty
import SnippetScope.Settings.Reading
import SnippetScope.Settings.Validation

namespace SnippetScope.Command

/-- The form of a report. -/
inductive Format where
  | pretty
  | json
  | markdown
  deriving DecidableEq, Repr

/-- The form that a name asks for. -/
def Format.ofName? (name : String) : Option Format :=
  if name = "pretty" then some .pretty
  else if name = "json" then some .json
  else if name = "markdown" then some .markdown
  else none

/-- The report in a form. -/
def Format.report (format : Format) (colours : Bool) (analyses : List Analysis)
    (documents : List Docs.Documents) : String :=
  match format with
  | pretty => Report.prettyText colours analyses documents
  | json => Report.jsonText analyses documents
  | markdown => Report.markdownText analyses documents

/-! ## Settings -/

/-- The names of files with settings in the working directory. -/
def settingsNames : List String := ["codelens.yaml", ".codelens.yaml"]

/-- The path of the settings that count when none are named: the first file
    that is there, the user's own last. -/
def Environment.discover? (environment : Environment) : Option (List Char) :=
  (settingsNames.map (·.toList) ++ environment.userSettings.toList).find? fun path =>
    environment.tree.reaches environment.here path

/-- The settings in a file. -/
def Environment.settingsIn (environment : Environment) (path : List Char) :
    Except String Settings :=
  match environment.tree.readText environment.here path with
  | .error fault => .error fault.message
  | .ok text =>
    match Settings.ofText? text with
    | none => .error "the settings cannot be read"
    | some settings => .ok settings

/-- The settings that count, which must make sense. -/
def Environment.settings (environment : Environment) (named : Option String) :
    Except String Settings := do
  let settings ← match (named.map (·.toList)).or environment.discover? with
    | some path => environment.settingsIn path
    | none => .ok {}
  match settings.problem? with
  | none => return settings
  | some problem => throw (": ".intercalate problem.chain)

/-! ## Sources -/

/-- The paths of a directory's files that are to be analysed: none that is left
    out, and none whose extension belongs to no language. -/
def isWanted (settings : Settings) (path : List Char) : Bool :=
  !settings.excludes (String.ofList path) &&
    (settings.languageOf? (String.ofList ((FilePath.extension? path).getD []))).isSome

/-- The source in a file, if the file holds a text. -/
def Environment.source? (environment : Environment) (path : List Char) : Option Source :=
  match environment.tree.readText environment.here path with
  | .ok text => some { text, fileName := some (String.ofList path) }
  | .error _ => none

/-- The sources of a directory, in the order of their paths. -/
def Environment.sourcesBelow (environment : Environment) (settings : Settings)
    (place : FileTree.Location) (path : List Char) : Except String (List Source) :=
  match environment.tree.walk place path with
  | .error fault => .error fault.message
  | .ok paths =>
    .ok ((FilePath.sort (paths.filter (isWanted settings))).filterMap environment.source?)

/-- The sources that a path stands for.  Only a single source can be given its
    language. -/
def Environment.sources (environment : Environment) (settings : Settings) (path : String)
    (language : Option Language) : Except String (List Source) := do
  if path = "-" then
    match String.fromUTF8? environment.input with
    | some text => return [{ text, language }]
    | none => throw FileFault.notText.message
  else
    match environment.tree.find environment.here path.toList with
    | .error fault => throw ("cannot access path " ++ Text.quotedPath path ++ ": " ++ fault.message)
    | .ok place =>
      match environment.tree.get? place with
      | some (.directory _) => environment.sourcesBelow settings place path.toList
      | _ =>
        match environment.tree.readText environment.here path.toList with
        | .error fault => throw ("failed to read " ++ path ++ ": " ++ fault.message)
        | .ok text => return [{ text, fileName := some path, language }]

/-- A path comes before another one; no path at all comes before every path. -/
def pathBefore : Option String → Option String → Bool
  | none, some _ => true
  | some a, some b => FilePath.before a.toList b.toList
  | _, none => false

/-- Analyses in the order of their paths; those with equal paths stay as they
    are. -/
def sortByPath (analyses : List Analysis) : List Analysis :=
  analyses.mergeSort fun a b => !pathBefore b.path a.path

/-- The analyses of the sources that a path stands for, in the order of the
    sources' paths. -/
def Environment.analyses (environment : Environment) (settings : Settings) (path : String)
    (language : Option Language) : Except String (List Analysis) := do
  return sortByPath ((← environment.sources settings path language).map
    (Analysis.ofSource settings))

/-! ## Results -/

/-- The files that are asked for.  Their paths lead on from the directory in
    the settings. -/
def AnalyzeOptions.artifacts (options : AnalyzeOptions) (settings : Settings)
    (analyses : List Analysis) (documents : List Docs.Documents) : List Artifact :=
  let below (path : String) := FilePath.join settings.directory.toList path.toList
  let made (path : Option String) (make : List Char → List Artifact) :=
    ((path.map below).map make).getD []
  made options.diagram (drawings .diagram diagramOf · analyses)
    ++ made options.chart (drawings .chart chartOf · analyses)
    ++ made options.saveDocs fun path =>
      [⟨.documents, path, Report.savedText analyses documents⟩]

/-- The documents for analyses, if they are asked for. -/
def AnalyzeOptions.documents (options : AnalyzeOptions) (capability : Docs.Capability)
    (analyses : List Analysis) : List Docs.Documents :=
  if options.docs || options.saveDocs.isSome then
    analyses.map fun a => capability.document ⟨a.outline, a.complexity, a.structures⟩
  else []

/-- Writes what is asked for, then reports.  What has been written is told only
    along with a report for readers. -/
def AnalyzeOptions.finish (options : AnalyzeOptions) (environment : Environment) (colours : Bool)
    (format : Format) (settings : Settings) (analyses : List Analysis)
    (documents : List Docs.Documents) : Outcome :=
  let written := writeAll environment.here environment.tree
    (options.artifacts settings analyses documents)
  let notes := if format = .pretty then written.done.map Artifact.note else []
  match written.failure with
  | some failure =>
    { exitCode := 2, messages := linesText (notes ++ ["Error: " ++ failure]), tree := written.tree }
  | none =>
    { exitCode := 0
      output := format.report colours analyses documents
      messages := linesText notes
      tree := written.tree }

/-- Analyses what the options name.  `capability` tells which text model the
    settings give. -/
def AnalyzeOptions.run (options : AnalyzeOptions) (environment : Environment) (colours : Bool)
    (capability : ModelSettings → Docs.Capability) : Outcome :=
  match Format.ofName? options.format with
  | none => environment.fail ["Error: invalid format " ++ Text.quoted options.format
      ++ ", must be 'pretty', 'json', or 'markdown'"]
  | some format =>
    match options.language.bind (fun name =>
        if (Language.ofName? name).isNone then some name else none) with
    | some name => environment.fail ["Error: unsupported language: " ++ name,
        "Run 'codelens languages' to see supported languages"]
    | none =>
      match environment.settings options.settings with
      | .error message => environment.fail ["Error loading config: " ++ message]
      | .ok settings =>
        let language := options.language.bind Language.ofName?
        match environment.analyses settings options.path language with
        | .error message => environment.fail ["Error: " ++ message]
        | .ok [] => { exitCode := 0, messages := linesText ["Warning: no files to analyze"],
                      tree := environment.tree }
        | .ok analyses =>
          let capability := if options.offline then .unavailable "offline mode"
            else capability settings.generation
          options.finish environment colours format settings analyses
            (options.documents capability analyses)

end SnippetScope.Command
