/-
  SnippetScope.Text.Lines

  Texts cut at a separator, and texts as lines.
-/

namespace SnippetScope.Text

/-- The parts of a text between the separators, one more than there are
    separators. -/
def splitAt (sep : Char) : List Char → List (List Char)
  | [] => [[]]
  | c :: rest =>
    if c = sep then [] :: splitAt sep rest
    else match splitAt sep rest with
      | [] => [[c]]
      | part :: parts => (c :: part) :: parts

/-- Drops one carriage return at the end of a line. -/
def dropReturn (line : List Char) : List Char :=
  if line.getLast? = some '\r' then line.dropLast else line

/-- The lines of a text as a reader sees them: a line feed, with one carriage
    return before it, ends a line, and a text that ends with one has no empty
    last line.  A carriage return that no line feed follows stays. -/
def lines (text : List Char) : List (List Char) :=
  match (splitAt '\n' text).reverse with
  | [] => []
  | last :: before =>
    let ended := (before.map dropReturn).reverse
    if last.isEmpty then ended else ended ++ [last]

/-- Each line followed by a line feed. -/
def unlines (ls : List (List Char)) : List Char :=
  ls.flatMap (· ++ ['\n'])

end SnippetScope.Text
