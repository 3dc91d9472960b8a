/-
  SnippetScope.Yaml.Token

  Cutting a YAML text into tokens.  Collections without brackets get marks
  where they start and end, which their indentation tells.
-/
import SnippetScope.Yaml.Scalar

namespace SnippetScope.Yaml

/-- A token of a YAML text. -/
inductive Token where
  | version (major minor : Nat)
  | tagShorthand (handle meaning : List Char)
  | documentStart
  | documentEnd
  | streamEnd
  | blockSequenceStart
  | blockMappingStart
  | blockEnd
  | flowSequenceStart
  | flowSequenceEnd
  | flowMappingStart
  | flowMappingEnd
  | blockEntry
  | flowEntry
  | key
  | value
  | reference (name : List Char)
  | anchor (name : List Char)
  | tag (handle ending : List Char)
  | scalar (style : Style) (text : List Char)
  deriving DecidableEq, Repr

/-- A place where a key without a question mark may have started. -/
structure KeyStart where
  /-- The number of tokens before it. -/
  index : Nat
  /-- Nothing but a key can stand there. -/
  required : Bool
  line : Nat
  column : Nat
  offset : Nat

/-- What has been cut so far and what is known of the place reached. -/
structure Scanner where
  cursor : Cursor
  /-- The tokens, last first. -/
  tokens : List Token
  /-- The indentation of the innermost collection without brackets, and those
      of the ones around it. -/
  indent : Int
  outer : List Int
  /-- A key may start here. -/
  keyAllowed : Bool
  /-- Where a key may have started, within the innermost brackets and within
      each of those around them. -/
  keys : Option KeyStart
  outerKeys : List (Option KeyStart)

namespace Scanner

/-- The start of a text. -/
def start (text : List Char) : Scanner where
  cursor := .start text
  tokens := []
  indent := -1
  outer := []
  keyAllowed := true
  keys := none
  outerKeys := []

/-- The place lies within brackets. -/
def inFlow (s : Scanner) : Bool := !s.outerKeys.isEmpty

/-- Adds a token. -/
def push (s : Scanner) (t : Token) : Scanner := { s with tokens := t :: s.tokens }

/-- Adds a token after the first `index` ones. -/
def insertAt (s : Scanner) (index : Nat) (t : Token) : Scanner :=
  { s with tokens := s.tokens.insertIdx (s.tokens.length - index) t }

/-! ## Indentation -/

/-- Ends the collections that are indented deeper than the column. -/
def closeTo (s : Scanner) (column : Int) : Scanner :=
  if s.inFlow then s
  else
    let closed := (s.indent :: s.outer).takeWhile (column < ·)
    match (s.indent :: s.outer).drop closed.length with
    | indent :: outer =>
      { s with tokens := List.replicate closed.length Token.blockEnd ++ s.tokens, indent, outer }
    | [] => s

/-- Starts a collection after the first `index` tokens if the column lies
    deeper than the innermost collection. -/
def openAt (s : Scanner) (column : Nat) (index : Nat) (t : Token) : Scanner :=
  if s.inFlow || (column : Int) ≤ s.indent then s
  else { s with indent := column, outer := s.indent :: s.outer }.insertAt index t

/-- Starts a collection at the place reached. -/
def openHere (s : Scanner) (t : Token) : Scanner :=
  s.openAt s.cursor.column s.tokens.length t

/-! ## Keys -/

/-- Gives up the key that may have started; an error if it had to be one. -/
def dropKey (s : Scanner) : Option Scanner :=
  match s.keys with
  | some k => if k.required then none else some { s with keys := none }
  | none => some s

/-- Notes that a key may start here. -/
def noteKey (s : Scanner) : Option Scanner :=
  if s.keyAllowed then
    s.dropKey.map fun s =>
      { s with keys := some {
          index := s.tokens.length
          required := !s.inFlow && s.indent == (s.cursor.column : Int)
          line := s.cursor.line
          column := s.cursor.column
          offset := s.cursor.offset } }
  else some s

/-- A key must stand on one line and be short. -/
def isStale (s : Scanner) (k : KeyStart) : Bool :=
  k.line < s.cursor.line || k.offset + 1024 < s.cursor.offset

/-- Forgets a key that can be none any more; an error if it had to be one. -/
def refreshKey (s : Scanner) : Option KeyStart → Option (Option KeyStart)
  | some k => if s.isStale k then (if k.required then none else some none) else some (some k)
  | none => some none

/-- Forgets all keys that can be none any more. -/
def refreshKeys (s : Scanner) : Option Scanner := do
  let keys ← s.refreshKey s.keys
  let outerKeys ← s.outerKeys.mapM s.refreshKey
  return { s with keys, outerKeys }

/-! ## Between tokens -/

/-- Moves on to the next token, over spaces, comments and line ends.  Tabs
    count as spaces within brackets and where no key may start. -/
def skipGaps : (fuel : Nat) → Scanner → Scanner
  | 0, s => s
  | fuel + 1, s =>
    let c := match s.cursor.rest with
      | x :: _ => if s.cursor.column == 0 && x.toNat == 0xFEFF then s.cursor.forward 1 else s.cursor
      | [] => s.cursor
    let isFiller (x : Char) : Bool := x == ' ' || ((s.inFlow || !s.keyAllowed) && x == '\t')
    let c := (c.forwardTo (c.rest.dropWhile isFiller)).skipComment
    match c.rest with
    | x :: _ =>
      if isBreak x then
        skipGaps fuel { s with cursor := c.nextLine, keyAllowed := s.keyAllowed || !s.inFlow }
      else { s with cursor := c }
    | [] => { s with cursor := c }

/-! ## Single tokens -/

/-- Moves on by `n` characters and adds a token. -/
def take (s : Scanner) (n : Nat) (t : Token) : Scanner :=
  { s with cursor := s.cursor.forward n }.push t

/-- An opening bracket. -/
def takeOpening (s : Scanner) (t : Token) : Option Scanner :=
  s.noteKey.map fun s =>
    { s with keys := none, outerKeys := s.keys :: s.outerKeys, keyAllowed := true }.take 1 t

/-- A closing bracket. -/
def takeClosing (s : Scanner) (t : Token) : Option Scanner :=
  s.dropKey.map fun s =>
    match s.outerKeys with
    | k :: outer => { s with keys := k, outerKeys := outer, keyAllowed := false }.take 1 t
    | [] => { s with keyAllowed := false }.take 1 t

/-- A comma between entries. -/
def takeFlowEntry (s : Scanner) : Option Scanner :=
  s.dropKey.map fun s => { s with keyAllowed := true }.take 1 .flowEntry

/-- A hyphen before an entry. -/
def takeBlockEntry (s : Scanner) : Option Scanner :=
  if !s.inFlow && !s.keyAllowed then none
  else (s.openHere .blockSequenceStart).dropKey.map fun s =>
    { s with keyAllowed := true }.take 1 .blockEntry

/-- A question mark before a key. -/
def takeKey (s : Scanner) : Option Scanner :=
  if !s.inFlow && !s.keyAllowed then none
  else (s.openHere .blockMappingStart).dropKey.map fun s =>
    { s with keyAllowed := !s.inFlow }.take 1 .key

/-- A colon before a value; it tells that a key has started earlier. -/
def takeValue (s : Scanner) : Option Scanner :=
  match s.keys with
  | some k =>
    let s := (s.insertAt k.index .key).openAt k.column k.index .blockMappingStart
    some ({ s with keys := none, keyAllowed := false }.take 1 .value)
  | none =>
    if !s.inFlow && !s.keyAllowed then none
    else
      let s := s.openHere .blockMappingStart
      some ({ s with keyAllowed := !s.inFlow }.take 1 .value)

/-- A scalar that may be a key. -/
def takeScalar (s : Scanner) (style : Style) (read : Scanner → Option (List Char × Cursor)) :
    Option Scanner := do
  let s ← s.noteKey
  let (text, cursor) ← read s
  return { s with cursor, keyAllowed := false }.push (.scalar style text)

/-- A plain scalar.  If lines have ended after it a key may follow. -/
def takePlain (s : Scanner) : Option Scanner := do
  let s ← s.noteKey
  let (text, broken, cursor) ←
    readPlain s.inFlow (s.indent + 1) (s.cursor.rest.length + 1) [] Gap.none s.cursor
  return { s with cursor, keyAllowed := broken }.push (.scalar .plain text)

/-- A quoted scalar. -/
def takeQuoted (s : Scanner) (single : Bool) : Option Scanner :=
  s.takeScalar (if single then .singleQuoted else .doubleQuoted) fun s =>
    readQuoted single (s.cursor.rest.length + 1) [] (s.cursor.forward 1)

/-- A block of lines. -/
def takeBlock (s : Scanner) (literal : Bool) : Option Scanner := do
  let s ← s.dropKey
  let (text, cursor) ← readBlock literal s.indent (s.cursor.forward 1)
  return { s with cursor, keyAllowed := true }.push
    (.scalar (if literal then .literal else .folded) text)

/-- A name after an ampersand or a star. -/
def takeName (s : Scanner) (token : List Char → Token) : Option Scanner := do
  let s ← s.noteKey
  let c := s.cursor.forward 1
  let name := c.rest.takeWhile isNameChar
  let c := c.forward name.length
  if name.isEmpty || !(gapFollows c.rest || startsWithOneOf "?:,]\x7d%@\x60" c.rest) then none
  else return { s with cursor := c, keyAllowed := false }.push (token name)

/-! ## Tags -/

/-- Characters of tags; commas and brackets count only where nothing else can
    be meant. -/
def isTagChar (wide : Bool) (c : Char) : Bool :=
  isNameChar c || ";/?:@&=+$.!~*'()%".toList.contains c || (wide && ",[]".toList.contains c)

/-- The number of bytes of the character that starts with a byte. -/
def widthOf? (byte : Nat) : Option Nat :=
  if byte < 0x80 then some 1
  else if 0xC0 ≤ byte && byte < 0xE0 then some 2
  else if 0xE0 ≤ byte && byte < 0xF0 then some 3
  else if 0xF0 ≤ byte && byte < 0xF8 then some 4
  else none

/-- The bytes that percent signs with two digits stand for, at most `n`. -/
def percentBytes : (n : Nat) → List Char → Option (List Nat)
  | 0, _ => some []
  | n + 1, '%' :: a :: b :: rest =>
    match hexNumber? [a, b], percentBytes n rest with
    | some byte, some bytes => some (byte :: bytes)
    | _, _ => none
  | _ + 1, _ => none

/-- The text of a tag with its escapes undone; `none` if one of them is none. -/
def unescapeTag : (fuel : Nat) → List Char → Option (List Char)
  | 0, _ => some []
  | _, [] => some []
  | fuel + 1, '%' :: rest => do
    let first ← percentBytes 1 ('%' :: rest)
    let width ← first.head?.bind widthOf?
    let bytes ← percentBytes width ('%' :: rest)
    let decoded ← String.fromUTF8? ⟨(bytes.map UInt8.ofNat).toArray⟩
    return decoded.toList ++ (← unescapeTag fuel (rest.drop (3 * width - 1)))
  | fuel + 1, c :: rest => (unescapeTag fuel rest).map (c :: ·)

/-- The handle of a tag: an exclamation mark, and a name between two of them. -/
def tagHandle (text : List Char) : List Char :=
  match text with
  | '!' :: rest =>
    let name := rest.takeWhile isNameChar
    match rest.drop name.length with
    | '!' :: _ => '!' :: name ++ ['!']
    | _ => '!' :: name
  | _ => []

/-- The characters of a tag at the place, and the place after them. -/
def readTagText (wide : Bool) (c : Cursor) : Option (List Char × Cursor) :=
  let written := c.rest.takeWhile (isTagChar wide)
  (unescapeTag (written.length + 1) written).map fun text => (text, c.forward written.length)

/-- A tag between angle brackets, after the exclamation mark. -/
def readVerbatimTag (c : Cursor) : Option (Token × Cursor) := do
  let (text, c) ← readTagText true (c.forward 1)
  match c.rest with
  | '>' :: _ => if text.isEmpty then none else return (.tag [] text, c.forward 1)
  | _ => none

/-- A tag with a handle. -/
def readShortTag (c : Cursor) : Option (Token × Cursor) := do
  let handle := tagHandle c.rest
  let (ending, after) ← readTagText false (c.forward handle.length)
  if 2 ≤ handle.length && handle.getLast? == some '!' then
    if ending.isEmpty then none else return (.tag handle ending, after)
  else
    let ending := handle.tail ++ ending
    if ending.isEmpty then return (.tag [] ['!'], after)
    else return (.tag ['!'] ending, after)

/-- A tag. -/
def takeTag (s : Scanner) : Option Scanner := do
  let s ← s.noteKey
  let (t, c) ← match s.cursor.rest with
    | '!' :: '<' :: _ => readVerbatimTag (s.cursor.forward 1)
    | _ => readShortTag s.cursor
  if gapFollows c.rest || (s.inFlow && startsWithOneOf "," c.rest) then
    return { s with cursor := c, keyAllowed := false }.push t
  else none

/-! ## Directives and marks of documents -/

/-- A number of at most nine digits. -/
def readNumber (c : Cursor) : Option (Nat × Cursor) :=
  let digits := c.rest.takeWhile Char.isDigit
  if digits.isEmpty || 9 < digits.length then none
  else some (digits.foldl (fun n d => 10 * n + (d.toNat - 48)) 0, c.forward digits.length)

/-- The rest of a directive that tells the version. -/
def readVersion (c : Cursor) : Option (Token × Cursor) := do
  let (major, c) ← readNumber c.skipSpaces
  match c.rest with
  | '.' :: _ =>
    let (minor, c) ← readNumber (c.forward 1)
    return (.version major minor, c)
  | _ => none

/-- The rest of a directive that gives a handle its meaning. -/
def readShorthand (c : Cursor) : Option (Token × Cursor) := do
  let c := c.skipSpaces
  let handle := tagHandle c.rest
  if handle.isEmpty || (handle != ['!'] && handle.getLast? != some '!') then none
  else
    let c := c.forward handle.length
    if !(c.rest.head?.map isSpace).getD false then none
    else
      let (meaning, c) ← readTagText true c.skipSpaces
      if meaning.isEmpty || !gapFollows c.rest then none
      else return (.tagShorthand handle meaning, c)

/-- A directive. -/
def takeDirective (s : Scanner) : Option Scanner := do
  let s ← (s.closeTo (-1)).dropKey
  let c := s.cursor.forward 1
  let name := c.rest.takeWhile isNameChar
  let c := c.forward name.length
  if name.isEmpty || !gapFollows c.rest then none
  else
    let (t, c) ←
      if name = "YAML".toList then readVersion c
      else if name = "TAG".toList then readShorthand c
      else none
    let c := c.skipSpaces.skipComment
    if lineEnds c.rest then return { s with cursor := c.nextLine, keyAllowed := false }.push t
    else none

/-- A mark between documents. -/
def takeDocumentMark (s : Scanner) (t : Token) : Option Scanner :=
  (s.closeTo (-1)).dropKey.map fun s => { s with keyAllowed := false }.take 3 t

/-- The end of the text. -/
def takeEnd (s : Scanner) : Option Scanner :=
  (s.closeTo (-1)).dropKey.map fun s => { s with keyAllowed := false }.push .streamEnd

/-! ## The whole text -/

/-- Takes the token that starts with the character `x` and goes on with `rest`. -/
def takeToken (s : Scanner) (x : Char) (rest : List Char) : Option Scanner :=
  if s.cursor.column == 0 && x == '%' then s.takeDirective
  else if s.cursor.atMarks '-' then s.takeDocumentMark .documentStart
  else if s.cursor.atMarks '.' then s.takeDocumentMark .documentEnd
  else if x == '[' then s.takeOpening .flowSequenceStart
  else if x == '\x7b' then s.takeOpening .flowMappingStart
  else if x == ']' then s.takeClosing .flowSequenceEnd
  else if x == '\x7d' then s.takeClosing .flowMappingEnd
  else if x == ',' then s.takeFlowEntry
  else if x == '-' && gapFollows rest then s.takeBlockEntry
  else if x == '?' && (s.inFlow || gapFollows rest) then s.takeKey
  else if x == ':' && (s.inFlow || gapFollows rest) then s.takeValue
  else if x == '*' then s.takeName .reference
  else if x == '&' then s.takeName .anchor
  else if x == '!' then s.takeTag
  else if x == '|' && !s.inFlow then s.takeBlock true
  else if x == '>' && !s.inFlow then s.takeBlock false
  else if x == '\'' then s.takeQuoted true
  else if x == '"' then s.takeQuoted false
  else if isGap x || "#|>%@\x60".toList.contains x then none
  else s.takePlain

/-- Cuts the rest of the text. -/
def scanFrom : (fuel : Nat) → Scanner → Option (List Token)
  | 0, _ => none
  | fuel + 1, s => do
    let s := s.skipGaps (s.cursor.rest.length + 1)
    let s ← s.refreshKeys
    let s := s.closeTo s.cursor.column
    match s.cursor.rest with
    | [] => (← s.takeEnd).tokens.reverse
    | x :: rest => scanFrom fuel (← s.takeToken x rest)

end Scanner

/-- The tokens of a text; `none` if it is none. -/
def tokens? (text : List Char) : Option (List Token) :=
  let text := match text with
    | c :: rest => if c.toNat = 0xFEFF then rest else c :: rest
    | [] => []
  if text.all isAllowed then Scanner.scanFrom (text.length + 2) (.start text) else none

end SnippetScope.Yaml
