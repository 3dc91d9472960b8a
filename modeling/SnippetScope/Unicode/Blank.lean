/-
  SnippetScope.Unicode.Blank

  Blank characters: the spaces, tabs and line separators of every script.
-/
import SnippetScope.Unicode.Ranges

namespace SnippetScope.Unicode

/-- Blank characters above the ASCII block. -/
def blankTable : Ranges := [
    (133, 133), (160, 160), (5760, 5760), (8192, 8202), (8232, 8233), (8239, 8239), (8287, 8287),
    (12288, 12288)]

/-- Tab, line feed, line tabulation, form feed, carriage return and space
    among the ASCII characters; above them the separators of the table. -/
def isBlank (c : Char) : Bool :=
  if c.toNat < 128 then (9 ≤ c.toNat && c.toNat ≤ 13) || c.toNat == 32
  else blankTable.has c.toNat

end SnippetScope.Unicode
