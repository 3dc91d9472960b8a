/-
  SnippetScope.Yaml.Cursor

  Places in a YAML text, and the characters that end words and lines.
-/
import SnippetScope.Json.Syntax

namespace SnippetScope.Yaml

/-! ## Characters -/

/-- Characters that may occur in a text at all. -/
def isAllowed (c : Char) : Bool :=
  let n := c.toNat
  n == 9 || n == 10 || n == 13 || (32 ≤ n && n ≤ 126) || n == 0x85
    || (0xA0 ≤ n && n ≤ 0xFFFD) || 0x10000 ≤ n

/-- Characters that end a line. -/
def isBreak (c : Char) : Bool :=
  c == '\r' || c == '\n' || c.toNat == 0x85 || c.toNat == 0x2028 || c.toNat == 0x2029

/-- Spaces and tabs. -/
def isSpace (c : Char) : Bool := c == ' ' || c == '\t'

/-- Spaces, tabs and line ends. -/
def isGap (c : Char) : Bool := isSpace c || isBreak c

/-- The text is at its end or goes on with a space, a tab or a line end. -/
def gapFollows : List Char → Bool
  | [] => true
  | c :: _ => isGap c

/-- The text is at its end or at the end of a line. -/
def lineEnds : List Char → Bool
  | [] => true
  | c :: _ => isBreak c

/-- Characters of names. -/
def isNameChar (c : Char) : Bool :=
  c.isAlphanum || c == '-' || c == '_'

/-- The text goes on with one of the characters. -/
def startsWithOneOf (chars : String) : List Char → Bool
  | [] => false
  | c :: _ => chars.toList.contains c

/-! ## Places -/

/-- A place in a text: what follows it, and where it lies. -/
structure Cursor where
  rest : List Char
  line : Nat
  column : Nat
  /-- The number of characters before the place. -/
  offset : Nat

namespace Cursor

/-- The start of a text. -/
def start (text : List Char) : Cursor := ⟨text, 0, 0, 0⟩

/-- Moves on by `n` characters of the same line. -/
def forward (c : Cursor) (n : Nat) : Cursor :=
  { c with rest := c.rest.drop n, column := c.column + n, offset := c.offset + n }

/-- Moves on to a later place on the same line, given by what follows it. -/
def forwardTo (c : Cursor) (rest : List Char) : Cursor :=
  let n := c.rest.length - rest.length
  { c with rest := rest, column := c.column + n, offset := c.offset + n }

/-- Moves on to the next line, if a line ends here. -/
def nextLine (c : Cursor) : Cursor :=
  match c.rest with
  | '\r' :: '\n' :: rest => ⟨rest, c.line + 1, 0, c.offset + 2⟩
  | b :: rest => if isBreak b then ⟨rest, c.line + 1, 0, c.offset + 1⟩ else c
  | [] => c

/-- What a line end contributes to a text: a line feed, unless it is one of
    the separators that stand for themselves. -/
def lineEnd (c : Cursor) : List Char :=
  match c.rest with
  | b :: _ =>
    if b.toNat = 0x2028 ∨ b.toNat = 0x2029 then [b] else if isBreak b then ['\n'] else []
  | [] => []

/-- The three marks stand alone at the start of a line. -/
def atMarks (c : Cursor) (mark : Char) : Bool :=
  c.column == 0 &&
    match c.rest with
    | x :: y :: z :: rest => x == mark && y == mark && z == mark && gapFollows rest
    | _ => false

/-- A line that separates documents starts here. -/
def atDocumentMark (c : Cursor) : Bool := c.atMarks '-' || c.atMarks '.'

/-- Moves on over spaces and tabs. -/
def skipSpaces (c : Cursor) : Cursor :=
  c.forwardTo (c.rest.dropWhile isSpace)

/-- Moves on over the rest of a line. -/
def skipToLineEnd (c : Cursor) : Cursor :=
  c.forwardTo (c.rest.dropWhile (!isBreak ·))

/-- Moves on over a comment, if one starts here. -/
def skipComment (c : Cursor) : Cursor :=
  match c.rest with
  | '#' :: _ => c.skipToLineEnd
  | _ => c

end Cursor

/-- The number that hexadecimal digits denote. -/
def hexNumber? (digits : List Char) : Option Nat :=
  digits.foldlM (fun n d => (Json.hexValue? (some d)).map (16 * n + ·)) 0

/-- The character with a number, if there is one. -/
def charOf? (n : Nat) : Option Char :=
  if n.isValidChar then some (Char.ofNat n) else none

end SnippetScope.Yaml
