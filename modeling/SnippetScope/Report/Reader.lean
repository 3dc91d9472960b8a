/-
  SnippetScope.Report.Reader

  Markdown documentation laid out for reading in a terminal.
-/
import SnippetScope.Docs.Template
import SnippetScope.Report.Styled
import SnippetScope.Text.Lines
import SnippetScope.Unicode.UpperCase

namespace SnippetScope.Report

/-- The number of columns of the layout. -/
def columns : Nat := 80

/-- A character repeated. -/
def repeated (n : Nat) (c : Char) : String :=
  String.ofList (List.replicate n c)

/-- A line across the whole layout. -/
def bar : List Span := plainLine (repeated columns '=')

/-- The text with spaces on both sides up to the width, the odd one on the
    right; a longer text stays as it is. -/
def centred (width : Nat) (text : String) : String :=
  let room := width - text.length
  repeated (room / 2) ' ' ++ text ++ repeated (room - room / 2) ' '

/-- The line below a heading: a little longer than it, up to a limit. -/
def underline (limit : Nat) (heading : List Char) : List Span :=
  plainLine (repeated (min (heading.length + 3) limit) '─')

/-- The frame of a block of code, above or below it. -/
def frame (left right : String) : List Span :=
  plainLine (left ++ repeated (columns - 2) '─' ++ right)

/-- What a line of the documentation is. -/
inductive LineRole where
  | title (text : List Char)
  | heading (text : List Char)
  | subheading (text : List Char)
  | fence
  | other
  deriving DecidableEq, Repr

/-- The role of a line, which its first characters tell. -/
def roleOf (line : List Char) : LineRole :=
  match "# ".toList.isPrefixOf? line with
  | some rest => .title rest
  | none =>
    match "## ".toList.isPrefixOf? line with
    | some rest => .heading rest
    | none =>
      match "### ".toList.isPrefixOf? line with
      | some rest => .subheading rest
      | none => if Docs.fence.toList.isPrefixOf line then .fence else .other

/-- A line of running text: a bullet, an empty line, or a paragraph. -/
def textLine (line : List Char) : List Span :=
  match "- ".toList.isPrefixOf? line with
  | some item => plainLine ("   • " ++ String.ofList item)
  | none =>
    if Text.allBlank line then emptyLine else plainLine ("   " ++ String.ofList line)

/-- The layout of the lines; `inCode` tells whether a block of code is open.
    Headings are recognised inside of blocks, too. -/
def layoutLines (inCode : Bool) : List (List Char) → List Span
  | [] => []
  | line :: rest =>
    match roleOf line with
    | .title text =>
      emptyLine
        ++ [strongColoured .cyan (String.ofList (Unicode.upperCase text)), lineEnd]
        ++ underline columns text ++ layoutLines inCode rest
    | .heading text =>
      emptyLine ++ [coloured .cyan (String.ofList text), lineEnd]
        ++ underline (columns / 2) text ++ layoutLines inCode rest
    | .subheading text =>
      emptyLine ++ [.plain "  ", strong (String.ofList text), lineEnd]
        ++ layoutLines inCode rest
    | .fence =>
      (if inCode then frame "└" "┘" else frame "┌" "┐") ++ layoutLines (!inCode) rest
    | .other =>
      (if inCode then plainLine ("│ " ++ String.ofList line) else textLine line)
        ++ layoutLines inCode rest

/-- Documentation under a title, between lines across the layout. -/
def layout (documentation title : String) : List Span :=
  emptyLine ++ bar
    ++ [.plain " ", strong (centred (columns - 2) title), .plain " ", lineEnd]
    ++ bar ++ layoutLines false (Text.lines documentation.toList)
    ++ emptyLine ++ bar

end SnippetScope.Report
