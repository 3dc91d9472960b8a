/-
  SnippetScope.Web.Escape

  Characters in web addresses: escapes with a percent sign, and the form of
  names and values in a query.
-/

namespace SnippetScope.Web

/-- The digit of a number below sixteen, in upper case. -/
def hexDigit (n : Nat) : Char :=
  if n < 10 then Char.ofNat (48 + n) else Char.ofNat (55 + n)

/-- A byte as a percent sign and two digits. -/
def escapeByte (byte : UInt8) : List Char :=
  ['%', hexDigit (byte.toNat / 16), hexDigit (byte.toNat % 16)]

/-- A character as the escapes of its bytes. -/
def escapeChar (c : Char) : List Char :=
  (String.utf8EncodeChar c).flatMap escapeByte

/-- A text in which only some characters stand for themselves. -/
def escape (plain : Char → Bool) (text : List Char) : List Char :=
  text.flatMap fun c => if plain c then [c] else escapeChar c

/-! ## The parts of an address -/

/-- Characters that can be seen and are no space. -/
def isGraphic (c : Char) : Bool :=
  32 < c.toNat && c.toNat < 127

/-- Characters that stand for themselves in a path. -/
def isPathChar (c : Char) : Bool :=
  isGraphic c && !"\"<>\x60#?\x7b\x7d".toList.contains c

/-- Characters that stand for themselves in a query. -/
def isQueryChar (c : Char) : Bool :=
  isGraphic c && !"\"<>#'".toList.contains c

/-- Characters that stand for themselves in the values of a form. -/
def isFormChar (c : Char) : Bool :=
  c.isAlphanum || c == '*' || c == '-' || c == '.' || c == '_'

/-- A character of a value of a form; a space becomes a plus sign. -/
def formChar (c : Char) : List Char :=
  if c = ' ' then ['+'] else if isFormChar c then [c] else escapeChar c

/-- A value of a form as it stands in a query. -/
def formValue (text : List Char) : List Char :=
  text.flatMap formChar

end SnippetScope.Web
