/-
  SnippetScope.Yaml.Scalar

  Reading scalars: plain ones, quoted ones, and blocks of lines.
-/
import SnippetScope.Yaml.Cursor

namespace SnippetScope.Yaml

/-- How a scalar is written. -/
inductive Style where
  | plain
  | singleQuoted
  | doubleQuoted
  | literal
  | folded
  deriving DecidableEq, Repr

/-! ## Gaps between words -/

/-- Spaces and line ends between two words of a scalar. -/
structure Gap where
  /-- The spaces, as long as no line has ended. -/
  spaces : List Char
  /-- A line has ended. -/
  broken : Bool
  firstBreak : List Char
  moreBreaks : List Char

namespace Gap

/-- Nothing between two words. -/
def none : Gap := ⟨[], false, [], []⟩

/-- A line has ended without a trace in the text. -/
def hidden : Gap := ⟨[], true, [], []⟩

/-- What a gap contributes to the text.  A single line end becomes a space; of
    several the first one is dropped. -/
def text (g : Gap) : List Char :=
  if !g.broken then g.spaces
  else if g.firstBreak = ['\n'] then (if g.moreBreaks.isEmpty then [' '] else g.moreBreaks)
  else g.firstBreak ++ g.moreBreaks

end Gap

/-- Reads a gap.  Within a plain scalar tabs may not stand left of the column
    `limit` of a new line. -/
def readGap (limit : Int) : (fuel : Nat) → Gap → Cursor → Option (Gap × Cursor)
  | 0, g, c => some (g, c)
  | fuel + 1, g, c =>
    match c.rest with
    | [] => some (g, c)
    | x :: _ =>
      if isSpace x then
        if g.broken && (c.column : Int) < limit && x == '\t' then Option.none
        else if g.broken then readGap limit fuel g (c.forward 1)
        else readGap limit fuel { g with spaces := g.spaces ++ [x] } (c.forward 1)
      else if isBreak x then
        if g.broken then
          readGap limit fuel { g with moreBreaks := g.moreBreaks ++ c.lineEnd } c.nextLine
        else readGap limit fuel ⟨[], true, c.lineEnd, []⟩ c.nextLine
      else some (g, c)

/-! ## Plain scalars -/

/-- Cuts off the characters of a plain scalar up to the next space, line end or
    indicator; `none` if a colon stands where it may not. -/
def takePlainWord (inFlow : Bool) : List Char → Option (List Char × List Char)
  | [] => some ([], [])
  | c :: rest =>
    if isGap c then some ([], c :: rest)
    else if inFlow && c == ':' && startsWithOneOf ",?[]\x7b\x7d" rest then none
    else if c == ':' && gapFollows rest then some ([], c :: rest)
    else if inFlow && ",[]\x7b\x7d".toList.contains c then some ([], c :: rest)
    else (takePlainWord inFlow rest).map fun (word, after) => (c :: word, after)

/-- The text of a plain scalar, whether lines have ended after it, and the
    place after it.  New lines must be indented to the column `limit`. -/
def readPlain (inFlow : Bool) (limit : Int) :
    (fuel : Nat) → List Char → Gap → Cursor → Option (List Char × Bool × Cursor)
  | 0, text, g, c => some (text, g.broken, c)
  | fuel + 1, text, g, c =>
    if c.atDocumentMark || startsWithOneOf "#" c.rest then some (text, g.broken, c)
    else match takePlainWord inFlow c.rest with
      | none => none
      | some (word, rest) =>
        let (text, g) := if word.isEmpty then (text, g) else (text ++ g.text ++ word, Gap.none)
        let c := c.forwardTo rest
        if rest.isEmpty || !gapFollows rest then some (text, g.broken, c)
        else match readGap limit (rest.length + 1) Gap.none c with
          | none => none
          | some (g, c) =>
            if !inFlow && (c.column : Int) < limit then some (text, g.broken, c)
            else readPlain inFlow limit fuel text g c

/-! ## Quoted scalars -/

/-- The character that a one-letter escape stands for. -/
def escapedChar? (c : Char) : Option Char :=
  match c with
  | '0' => some (Char.ofNat 0)
  | 'a' => some (Char.ofNat 7)
  | 'b' => some (Char.ofNat 8)
  | 't' | '\t' => some '\t'
  | 'n' => some '\n'
  | 'v' => some (Char.ofNat 11)
  | 'f' => some (Char.ofNat 12)
  | 'r' => some '\r'
  | 'e' => some (Char.ofNat 27)
  | ' ' => some ' '
  | '"' => some '"'
  | '/' => some '/'
  | '\\' => some '\\'
  | 'N' => some (Char.ofNat 0x85)
  | '_' => some (Char.ofNat 0xA0)
  | 'L' => some (Char.ofNat 0x2028)
  | 'P' => some (Char.ofNat 0x2029)
  | _ => none

/-- The character with the number that hexadecimal digits denote. -/
def hexChar? (digits : List Char) : Option Char :=
  (hexNumber? digits).bind charOf?

/-- Puts a character in front of a word that is being read. -/
def consTo (c : Option Char) (word : Option (List Char × List Char)) :
    Option (List Char × List Char) :=
  match c, word with
  | some c, some (w, rest) => some (c :: w, rest)
  | _, _ => none

/-- Cuts off the characters of a single-quoted scalar up to the next space,
    line end or closing quote. -/
def takeSingleWord : List Char → Option (List Char × List Char)
  | [] => some ([], [])
  | '\'' :: '\'' :: rest => consTo (some '\'') (takeSingleWord rest)
  | c :: rest =>
    if isGap c || c == '\'' then some ([], c :: rest)
    else consTo (some c) (takeSingleWord rest)

/-- Cuts off the characters of a double-quoted scalar up to the next space,
    line end, escaped line end or closing quote; `none` if an escape is none. -/
def takeDoubleWord : List Char → Option (List Char × List Char)
  | [] => some ([], [])
  | '\\' :: 'x' :: a :: b :: rest => consTo (hexChar? [a, b]) (takeDoubleWord rest)
  | '\\' :: 'u' :: a :: b :: c :: d :: rest => consTo (hexChar? [a, b, c, d]) (takeDoubleWord rest)
  | '\\' :: 'U' :: a :: b :: c :: d :: e :: f :: g :: h :: rest =>
    consTo (hexChar? [a, b, c, d, e, f, g, h]) (takeDoubleWord rest)
  | '\\' :: e :: rest =>
    if isBreak e then some ([], '\\' :: e :: rest)
    else consTo (escapedChar? e) (takeDoubleWord rest)
  | ['\\'] => none
  | c :: rest =>
    if isGap c || c == '"' then some ([], c :: rest)
    else consTo (some c) (takeDoubleWord rest)

/-- The text of a quoted scalar after its opening quote, and the place after
    its closing one. -/
def readQuoted (single : Bool) : (fuel : Nat) → List Char → Cursor → Option (List Char × Cursor)
  | 0, _, _ => none
  | fuel + 1, text, c =>
    if c.atDocumentMark || c.rest.isEmpty then none
    else match if single then takeSingleWord c.rest else takeDoubleWord c.rest with
      | none => none
      | some (word, rest) =>
        let text := text ++ word
        let c := c.forwardTo rest
        let closing := if single then '\'' else '"'
        let afterGap (g : Gap) (c : Cursor) : Option (List Char × Cursor) :=
          if c.rest.head? = some closing then some (text, c.forward 1)
          else match readGap 0 (c.rest.length + 1) g c with
            | none => none
            | some (g, c) => readQuoted single fuel (text ++ g.text) c
        match rest with
        | '\\' :: _ => afterGap Gap.hidden (c.forward 1).nextLine
        | _ => afterGap Gap.none c

/-! ## Blocks of lines -/

/-- What becomes of the line ends at the end of a block. -/
inductive Chomping where
  | strip
  | clip
  | keep
  deriving DecidableEq, Repr

/-- The chomping that a sign asks for. -/
def chompingOf? (c : Char) : Option Chomping :=
  if c = '-' then some .strip else if c = '+' then some .keep else none

/-- The indentation that a digit asks for; zero is none. -/
def incrementOf? (c : Char) : Option Nat :=
  if c.isDigit && c != '0' then some (c.toNat - 48) else none

/-- The header of a block after its indicator: a sign and a digit in any
    order, each of which may be missing.  An indentation of zero is an error. -/
def readBlockHeader (c : Cursor) : Option (Chomping × Option Nat × Cursor) :=
  match c.rest with
  | x :: rest =>
    match chompingOf? x with
    | some chomping =>
      match rest with
      | d :: _ =>
        if d.isDigit then (incrementOf? d).map fun n => (chomping, some n, c.forward 2)
        else some (chomping, none, c.forward 1)
      | [] => some (chomping, none, c.forward 1)
    | none =>
      if x.isDigit then
        (incrementOf? x).map fun n =>
          match rest with
          | s :: _ =>
            match chompingOf? s with
            | some chomping => (chomping, some n, c.forward 2)
            | none => (.clip, some n, c.forward 1)
          | [] => (.clip, some n, c.forward 1)
      else some (.clip, none, c)
  | [] => some (.clip, none, c)

/-- Empty lines in front of a line of a block. -/
structure EmptyLines where
  /-- The greatest indentation among them. -/
  deepest : Nat
  breaks : List Char
  after : Cursor

/-- Reads empty lines and the indentation of the next line, up to the column
    `indent` if that is known. -/
def readEmptyLines (indent : Option Nat) :
    (fuel : Nat) → (deepest : Nat) → List Char → Cursor → Option EmptyLines
  | 0, deepest, breaks, c => some ⟨deepest, breaks, c⟩
  | fuel + 1, deepest, breaks, c =>
    let spaces := c.rest.takeWhile (· == ' ')
    let wanted := match indent with
      | some n => min spaces.length (n - c.column)
      | none => spaces.length
    let c := c.forward wanted
    let deepest := max deepest c.column
    let within := match indent with
      | some n => c.column < n
      | none => true
    match c.rest with
    | x :: _ =>
      if within && x == '\t' then none
      else if isBreak x then
        readEmptyLines indent fuel deepest (breaks ++ c.lineEnd) c.nextLine
      else some ⟨deepest, breaks, c⟩
    | [] => some ⟨deepest, breaks, c⟩

/-- A block that is being read. -/
structure Block where
  text : List Char
  /-- The end of the last line. -/
  lastBreak : List Char
  /-- The ends of the empty lines after it. -/
  emptyBreaks : List Char
  /-- The last line starts with a space or a tab. -/
  indented : Bool

/-- Adds the line ends before a line that starts with a space or tab or not.
    In folded text a single line end between two ordinary lines is a space. -/
def Block.join (b : Block) (literal startsBlank : Bool) : List Char :=
  if !literal && b.lastBreak.head? == some '\n' && !b.indented && !startsBlank then
    b.text ++ (if b.emptyBreaks.isEmpty then [' '] else []) ++ b.emptyBreaks
  else b.text ++ b.lastBreak ++ b.emptyBreaks

/-- Reads the lines of a block that are indented to the column `indent`. -/
def readBlockLines (literal : Bool) (indent : Nat) :
    (fuel : Nat) → Block → Cursor → Option (Block × Cursor)
  | 0, b, c => some (b, c)
  | fuel + 1, b, c =>
    if c.column ≠ indent ∨ c.rest.isEmpty then some (b, c)
    else
      let startsBlank := match c.rest with
        | x :: _ => isSpace x
        | [] => false
      let text := b.join literal startsBlank ++ c.rest.takeWhile (!isBreak ·)
      let c := c.skipToLineEnd
      let lastBreak := c.lineEnd
      let c := c.nextLine
      match readEmptyLines (some indent) (c.rest.length + 1) 0 [] c with
      | none => none
      | some e =>
        readBlockLines literal indent fuel ⟨text, lastBreak, e.breaks, startsBlank⟩ e.after

/-- The text of a block after its indicator, and the place after it; `outer` is
    the indentation around it. -/
def readBlock (literal : Bool) (outer : Int) (c : Cursor) : Option (List Char × Cursor) := do
  let (chomping, increment, c) ← readBlockHeader c
  let c := c.skipSpaces.skipComment
  if !lineEnds c.rest then none
  else
    let c := c.nextLine
    let known := increment.map fun n => if 0 ≤ outer then outer.toNat + n else n
    let e ← readEmptyLines known (c.rest.length + 1) 0 [] c
    let indent := known.getD (max (max e.deepest (outer + 1).toNat) 1)
    let (b, c) ← readBlockLines literal indent (c.rest.length + 1) ⟨[], [], e.breaks, false⟩ e.after
    match chomping with
    | .strip => return (b.text, c)
    | .clip => return (b.text ++ b.lastBreak, c)
    | .keep => return (b.text ++ b.lastBreak ++ b.emptyBreaks, c)

end SnippetScope.Yaml
