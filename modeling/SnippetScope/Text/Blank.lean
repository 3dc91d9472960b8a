/-
  SnippetScope.Text.Blank

  Blank characters at the ends of a text and between its words.
-/
import SnippetScope.Unicode.Blank

namespace SnippetScope.Text

open SnippetScope.Unicode (isBlank)

/-- Drops the blanks before the first character that is not blank. -/
def trimLeft (text : List Char) : List Char :=
  text.dropWhile isBlank

/-- Drops the blanks after the last character that is not blank. -/
def trimRight (text : List Char) : List Char :=
  (text.reverse.dropWhile isBlank).reverse

/-- Drops the blanks at both ends. -/
def trim (text : List Char) : List Char :=
  trimRight (trimLeft text)

/-- A text with nothing to see: empty, or made of blanks. -/
def allBlank (text : List Char) : Bool :=
  text.all isBlank

/-- Puts a character in front of the first word of a list. -/
def consWord (c : Char) : List (List Char) → List (List Char)
  | [] => [[c]]
  | word :: rest => (c :: word) :: rest

/-- Cuts a text at every blank; neighbouring blanks leave empty words. -/
def cutAtBlanks : List Char → List (List Char)
  | [] => [[]]
  | c :: rest => if isBlank c then [] :: cutAtBlanks rest else consWord c (cutAtBlanks rest)

/-- The words of a text, in order: its longest runs without blanks. -/
def words (text : List Char) : List (List Char) :=
  (cutAtBlanks text).filter (!·.isEmpty)

/-- The words of a text with one space between neighbours. -/
def squeeze (text : List Char) : List Char :=
  List.intercalate [' '] (words text)

end SnippetScope.Text
