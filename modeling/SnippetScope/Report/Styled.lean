/-
  SnippetScope.Report.Styled

  Text for a terminal, made of spans with or without a style.  Styles are
  written as escape sequences around the span, or left out altogether.
-/

namespace SnippetScope.Report

/-- Colours of text. -/
inductive Colour where
  | red
  | green
  | yellow
  | blue
  | cyan
  deriving DecidableEq, Repr

/-- The code of a colour. -/
def Colour.code : Colour → Nat
  | red => 31
  | green => 32
  | yellow => 33
  | blue => 34
  | cyan => 36

/-- How a span looks. -/
structure Style where
  bold : Bool := false
  dimmed : Bool := false
  colour : Option Colour := none
  deriving DecidableEq, Repr

/-- The codes of a style, the colour last. -/
def Style.codes (style : Style) : List Nat :=
  (if style.bold then [1] else []) ++ (if style.dimmed then [2] else [])
    ++ (style.colour.map Colour.code).toList

/-- A piece of text in one style, or in none. -/
inductive Span where
  | plain (text : String)
  | styled (style : Style) (text : String)
  deriving DecidableEq, Repr

/-- The character that opens an escape sequence. -/
def escapeCharacter : Char := Char.ofNat 27

/-- The sequence that switches to a style. -/
def Style.start (style : Style) : List Char :=
  escapeCharacter :: '[' :: List.intercalate [';'] (style.codes.map (Nat.toDigits 10)) ++ ['m']

/-- The sequence that switches styles off. -/
def styleEnd : List Char := [escapeCharacter, '[', '0', 'm']

/-- The text with the style switched on again wherever the text itself
    switches styles off. -/
def resume (style : Style) : List Char → List Char
  | [] => []
  | '\x1b' :: '[' :: '0' :: 'm' :: after => styleEnd ++ style.start ++ resume style after
  | a :: rest => a :: resume style rest

/-- The span as written; without colours only its text is. -/
def Span.write (colours : Bool) : Span → List Char
  | plain text => text.toList
  | styled style text =>
    if colours then style.start ++ resume style text.toList ++ styleEnd else text.toList

/-- All spans one after the other. -/
def writeSpans (colours : Bool) (spans : List Span) : String :=
  String.ofList (spans.flatMap (Span.write colours))

/-! ## Common spans -/

/-- The end of a line. -/
def lineEnd : Span := .plain "\n"

/-- A line without styles. -/
def plainLine (text : String) : List Span := [.plain text, lineEnd]

/-- An empty line. -/
def emptyLine : List Span := [lineEnd]

/-- Text of less weight. -/
def dim (text : String) : Span := .styled { dimmed := true } text

/-- Text of more weight. -/
def strong (text : String) : Span := .styled { bold := true } text

/-- Text in a colour. -/
def coloured (colour : Colour) (text : String) : Span := .styled { colour := some colour } text

/-- Text in a colour and of more weight. -/
def strongColoured (colour : Colour) (text : String) : Span :=
  .styled { bold := true, colour := some colour } text

end SnippetScope.Report
