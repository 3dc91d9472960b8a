/-
  SnippetScope.Language.Comments

  The comments of each language and their removal from a text.
-/
import SnippetScope.Language
import SnippetScope.Pattern.Search

namespace SnippetScope

/-- How far a comment reaches. -/
inductive CommentForm where
  /-- To the end of its line. -/
  | line
  /-- To a closing mark, on whatever line. -/
  | block
  deriving DecidableEq, Repr

/-- A kind of comment. -/
inductive CommentRule where
  /-- Opened by the mark and ended by the line. -/
  | toLineEnd (mark : String)
  /-- Opened by one mark and ended by the next closing mark. -/
  | between (opening closing : String)
  deriving DecidableEq, Repr

namespace CommentRule

/-- The form of the comments of a rule. -/
def form : CommentRule → CommentForm
  | toLineEnd _ => .line
  | between _ _ => .block

/-- What a comment looks like.  A line comment leaves the line feed alone; a
    block comment without its closing mark is none. -/
def pattern : CommentRule → Pattern
  | toLineEnd mark => .text mark ++ .longest (· != '\n') 0
  | between opening closing => .text opening ++ .shortest (fun _ => true) ++ .text closing

end CommentRule

namespace Language

/-- The comment rules of a language, in the order in which they are applied. -/
def commentRules : Language → List CommentRule
  | python => [.toLineEnd "#", .between "\"\"\"" "\"\"\"", .between "'''" "'''"]
  | cpp | java | c | go | rust => [.toLineEnd "//", .between "/*" "*/"]

end Language

/-- One pass over a text: every rule in order removes its comments. -/
def removeComments (rules : List CommentRule) (text : List Char) : List Char :=
  rules.foldl (fun t rule => rule.pattern.remove t) text

/-- Passes are repeated for as long as they shorten the text, since a removed
    comment can bring the marks of another one together. -/
def stripWith (rules : List CommentRule) (text : List Char) : List Char :=
  let next := removeComments rules text
  if next.length < text.length then stripWith rules next else next
termination_by text.length

/-- The text without the comments of the language. -/
def stripComments (language : Language) (text : List Char) : List Char :=
  stripWith language.commentRules text

end SnippetScope
