/-
  SnippetScope.Text.Quoted

  Texts between quotation marks, with escapes for what would not show.
-/
import SnippetScope.Unicode.Visible

namespace SnippetScope.Text

/-- A number in lower-case hexadecimal digits. -/
def hexadecimal (n : Nat) : List Char :=
  Nat.toDigits 16 n

/-- How a character is written between quotation marks. -/
def quoteChar (c : Char) : List Char :=
  if c = '"' ∨ c = '\\' then ['\\', c]
  else if c = '\n' then ['\\', 'n']
  else if c = '\r' then ['\\', 'r']
  else if c = '\t' then ['\\', 't']
  else if c.toNat = 0 then ['\\', '0']
  else if Unicode.isVisible c then [c]
  else ['\\', 'u', '\x7b'] ++ hexadecimal c.toNat ++ ['\x7d']

/-- The text between quotation marks. -/
def quoted (text : String) : String :=
  String.ofList ('"' :: text.toList.flatMap quoteChar ++ ['"'])

/-- How a character of a path is written between quotation marks: apostrophes
    are escaped as well. -/
def quotePathChar (c : Char) : List Char :=
  if c = '\'' then ['\\', c] else quoteChar c

/-- The path between quotation marks. -/
def quotedPath (path : String) : String :=
  String.ofList ('"' :: path.toList.flatMap quotePathChar ++ ['"'])

end SnippetScope.Text
