/-
  SnippetScope.Diagram.Markup

  Elements with attributes and text, and how they are written.  Characters
  with a meaning in markup are replaced in texts, never in attributes, which
  hold names, numbers and colours only.
-/

namespace SnippetScope

/-- A piece of a document. -/
inductive Markup where
  /-- Text between tags. -/
  | words (content : String)
  /-- An element without content. -/
  | leaf (name : String) (attributes : List (String × String))
  /-- An element with content. -/
  | node (name : String) (attributes : List (String × String)) (children : List Markup)

namespace Markup

/-- A text in place of every occurrence of a character. -/
def replaceChar (c : Char) (replacement : String) (text : List Char) : List Char :=
  text.flatMap fun d => if d = c then replacement.toList else [d]

/-- How a text is written between tags.  The ampersands of the text are replaced
    before those that the other replacements bring in. -/
def escape (content : String) : List Char :=
  replaceChar '"' "&quot;" <| replaceChar '>' "&gt;" <| replaceChar '<' "&lt;" <|
    replaceChar '&' "&amp;" content.toList

/-- The attributes of a tag, each after a space. -/
def writeAttributes (attributes : List (String × String)) : List Char :=
  attributes.flatMap fun a => ' ' :: a.1.toList ++ ['=', '"'] ++ a.2.toList ++ ['"']

mutual

/-- A piece as it is written, without any line breaks of its own. -/
def write : Markup → List Char
  | words content => escape content
  | leaf name attributes => '<' :: name.toList ++ writeAttributes attributes ++ ['/', '>']
  | node name attributes children =>
    '<' :: name.toList ++ writeAttributes attributes ++ ['>'] ++ writeAll children
      ++ ['<', '/'] ++ name.toList ++ ['>']

/-- Pieces one after the other. -/
def writeAll : List Markup → List Char
  | [] => []
  | piece :: rest => write piece ++ writeAll rest

end

/-- Pieces on a line each. -/
def writeLines (pieces : List Markup) : List Char :=
  pieces.flatMap fun piece => write piece ++ ['\n']

/-- A document: an element whose children stand on a line each. -/
def document (name : String) (attributes : List (String × String)) (children : List Markup) :
    String :=
  String.ofList ('<' :: name.toList ++ writeAttributes attributes ++ ['>', '\n']
    ++ writeLines children ++ ['<', '/'] ++ name.toList ++ ['>', '\n'])

end Markup

end SnippetScope
