/-
  SnippetScope.Text.Search

  Plain substring search in texts, which are lists of characters: whether a
  word occurs, and how often without overlap.
-/

namespace SnippetScope.Text

/-- The word stands somewhere in the text. -/
def occurs (word : List Char) : List Char → Bool
  | [] => word.isEmpty
  | c :: rest => word.isPrefixOf (c :: rest) || occurs word rest

/-- Counts occurrences of the word from left to right; `skip` characters
    still belong to the occurrence found last. -/
def countFrom (word : List Char) : (skip : Nat) → List Char → Nat
  | _, [] => 0
  | skip + 1, _ :: rest => countFrom word skip rest
  | 0, c :: rest =>
    if word.isPrefixOf (c :: rest) then countFrom word (word.length - 1) rest + 1
    else countFrom word 0 rest

/-- How often a non-empty word occurs in the text, occurrences that overlap
    an earlier one left out. -/
def count (word text : List Char) : Nat :=
  countFrom word 0 text

end SnippetScope.Text
