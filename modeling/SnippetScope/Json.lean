/-
  SnippetScope.Json

  JSON values and how they are written out.  A layout tells what stands between
  the parts of a value: nothing at all, or line feeds and an indentation.
-/

namespace SnippetScope

/-- A value to be written as JSON.  Members keep their order. -/
inductive Json where
  | null
  | bool (value : Bool)
  | number (value : Nat)
  | string (value : String)
  | array (items : List Json)
  | object (members : List (String × Json))

namespace Json

/-! ## Strings -/

/-- The digit of a number below sixteen, in lower case. -/
def hexDigit (n : Nat) : Char :=
  if n < 10 then Char.ofNat (48 + n) else Char.ofNat (87 + n)

/-- How a character is written between quotation marks.  Only the quotation
    mark, the backslash and the controls of the first block need an escape. -/
def escapeChar (c : Char) : List Char :=
  if c = '"' then ['\\', '"']
  else if c = '\\' then ['\\', '\\']
  else if c = '\n' then ['\\', 'n']
  else if c = '\r' then ['\\', 'r']
  else if c = '\t' then ['\\', 't']
  else if c.toNat = 8 then ['\\', 'b']
  else if c.toNat = 12 then ['\\', 'f']
  else if c.toNat < 32 then
    ['\\', 'u', '0', '0', hexDigit (c.toNat / 16), hexDigit (c.toNat % 16)]
  else [c]

/-- The characters between the quotation marks of a string. -/
def escape (text : List Char) : List Char :=
  text.flatMap escapeChar

/-- A string with its quotation marks. -/
def writeString (text : String) : List Char :=
  '"' :: escape text.toList ++ ['"']

/-- A number in decimal digits. -/
def writeNumber (n : Nat) : List Char :=
  Nat.toDigits 10 n

/-! ## Values -/

/-- What is written between the parts of a value. -/
structure Layout where
  /-- What comes before each item or member at a level, and before the bracket
      that closes a value at it. -/
  lineStart : (level : Nat) → List Char
  /-- What follows the colon behind a key. -/
  afterColon : List Char

/-- Nothing between the parts. -/
def Layout.flat : Layout where
  lineStart _ := []
  afterColon := []

/-- A line for each item and member, two spaces further in at each level. -/
def Layout.indented : Layout where
  lineStart level := '\n' :: List.replicate (2 * level) ' '
  afterColon := [' ']

mutual

/-- A value that stands at the level. -/
def write (layout : Layout) (level : Nat) : Json → List Char
  | null => "null".toList
  | bool true => "true".toList
  | bool false => "false".toList
  | number n => writeNumber n
  | string s => writeString s
  | array [] => ['[', ']']
  | array (item :: rest) =>
    '[' :: layout.lineStart (level + 1) ++ write layout (level + 1) item
      ++ writeItems layout (level + 1) rest ++ layout.lineStart level ++ [']']
  | object [] => ['\x7b', '\x7d']
  | object ((key, value) :: rest) =>
    '\x7b' :: layout.lineStart (level + 1) ++ writeString key ++ ':' :: layout.afterColon
      ++ write layout (level + 1) value ++ writeMembers layout (level + 1) rest
      ++ layout.lineStart level ++ ['\x7d']

/-- Items after the first, each after a comma. -/
def writeItems (layout : Layout) (level : Nat) : List Json → List Char
  | [] => []
  | item :: rest =>
    ',' :: layout.lineStart level ++ write layout level item ++ writeItems layout level rest

/-- Members after the first, each after a comma. -/
def writeMembers (layout : Layout) (level : Nat) : List (String × Json) → List Char
  | [] => []
  | (key, value) :: rest =>
    ',' :: layout.lineStart level ++ writeString key ++ ':' :: layout.afterColon
      ++ write layout level value ++ writeMembers layout level rest

end

/-- A value over several lines, without a line feed at the end. -/
def pretty (value : Json) : String :=
  String.ofList (write .indented 0 value)

/-- A value on one line. -/
def flat (value : Json) : String :=
  String.ofList (write .flat 0 value)

end Json

end SnippetScope
