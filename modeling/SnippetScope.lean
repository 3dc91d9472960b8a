import SnippetScope.Main
import SnippetScope.Proofs.Comments.Rules
import SnippetScope.Proofs.Text.Lines
import SnippetScope.Proofs.Comments.LineComments
import SnippetScope.Proofs.FilePath.Below
import SnippetScope.Proofs.FilePath.Order
import SnippetScope.Proofs.FilePath.Siblings
import SnippetScope.Proofs.FileTree.Plain
import SnippetScope.Proofs.FileTree.Walk
import SnippetScope.Proofs.FileTree.Relisted
import SnippetScope.Proofs.Command.DirectoryRun
import SnippetScope.Proofs.Outline.Names
import SnippetScope.Proofs.Docs.Lines
import SnippetScope.Proofs.Docs.Template
import SnippetScope.Proofs.Docs.Structure
import SnippetScope.Proofs.Glob.Matching
import SnippetScope.Proofs.Language.Extension
import SnippetScope.Proofs.Settings.Effect
import SnippetScope.Proofs.Command.PickedLanguage
import SnippetScope.Proofs.Diagram.Escaping
import SnippetScope.Proofs.Diagram.Tags
import SnippetScope.Proofs.Diagram.Drawings
import SnippetScope.Proofs.Diagram.Content
import SnippetScope.Proofs.Diagram.TreePlaces
import SnippetScope.Proofs.Diagram.Placement
import SnippetScope.Proofs.Json.Scalars
import SnippetScope.Proofs.Json.RoundTrip
import SnippetScope.Proofs.Json.Fields
import SnippetScope.Proofs.Report.RoundTrip
import SnippetScope.Proofs.Structure.Inserts
import SnippetScope.Proofs.Text.Occurrences
import SnippetScope.Proofs.Language.Scores
import SnippetScope.Proofs.Analysis.Precedence
import SnippetScope.Proofs.Docs.Answers
import SnippetScope.Proofs.Docs.Outcome
import SnippetScope.Proofs.Docs.Session
import SnippetScope.Proofs.FileTree.Items
import SnippetScope.Proofs.FileTree.Routes
import SnippetScope.Proofs.FileTree.Edits
import SnippetScope.Proofs.Command.Artifacts
import SnippetScope.Proofs.Command.Runs
import SnippetScope.Proofs.Command.Output
import SnippetScope.Proofs.Command.DrawingPaths
import SnippetScope.Proofs.Command.Init
import SnippetScope.Proofs.Comments.LineCuts
import SnippetScope.Proofs.Comments.Blocks
import SnippetScope.Proofs.Comments.BlockComments
import SnippetScope.Proofs.Report.CodeBlocks
import SnippetScope.Proofs.Pattern.Ways
import SnippetScope.Proofs.Structure.Groups
import SnippetScope.Proofs.Structure.ArraySample
import SnippetScope.Proofs.Outline.Calls
import SnippetScope.Proofs.Docs.Parameters
import SnippetScope.Proofs.Outline.Headers
import SnippetScope.Proofs.Outline.BracedHeaders
import SnippetScope.Proofs.Outline.FlatSources
import SnippetScope.Proofs.Outline.Soundness
import SnippetScope.Proofs.Complexity.BraceDepth
import SnippetScope.Proofs.Complexity.Appending
import SnippetScope.Proofs.Complexity.LoopHeads
import SnippetScope.Proofs.Unicode.LowerCase
import SnippetScope.Proofs.Structure.Embedding
import SnippetScope.Proofs.Web.Form
import SnippetScope.Proofs.Web.Target
import SnippetScope.Proofs.Docs.Requests
import SnippetScope.Proofs.Report.Sequences
import SnippetScope.Proofs.Unicode.UpperCase
import SnippetScope.Proofs.Report.Colours
