/-
  SnippetScope.Json.Syntax

  Reading JSON.  The reader settles the shape of a document and keeps strings
  and numbers as they are written; what a string denotes is asked only where
  its text is needed.  Input may hold bytes that are no text; they are
  allowed inside strings whose text nobody asks for.
-/

namespace SnippetScope.Json

/-- A character of the input, or `none` for a byte that belongs to none. -/
abbrev Symbol := Option Char

/-- A document as it is written. -/
inductive Written where
  | null
  | bool (value : Bool)
  | number (digits : List Char)
  /-- What stands between the quotation marks. -/
  | string (inner : List Symbol)
  | array (items : List Written)
  | object (members : List (List Symbol × Written))

/-! ## Strings -/

/-- The value of a hexadecimal digit of either case. -/
def hexValue? : Symbol → Option Nat
  | none => none
  | some c =>
    let n := c.toNat
    if 48 ≤ n ∧ n ≤ 57 then some (n - 48)
    else if 97 ≤ n ∧ n ≤ 102 then some (n - 87)
    else if 65 ≤ n ∧ n ≤ 70 then some (n - 55)
    else none

/-- The value of four hexadecimal digits. -/
def hexValue4? (a b c d : Symbol) : Option Nat := do
  let a ← hexValue? a
  let b ← hexValue? b
  let c ← hexValue? c
  let d ← hexValue? d
  return ((a * 16 + b) * 16 + c) * 16 + d

/-- The character that a one-letter escape stands for. -/
def unescape? (c : Char) : Option Char :=
  if c = '"' ∨ c = '\\' ∨ c = '/' then some c
  else if c = 'b' then some (Char.ofNat 8)
  else if c = 'f' then some (Char.ofNat 12)
  else if c = 'n' then some '\n'
  else if c = 'r' then some '\r'
  else if c = 't' then some '\t'
  else none

/-- Cuts the input after the quotation mark that closes a string; controls
    must be escaped, and every escape must be one of the known ones. -/
def closeString : List Symbol → Option (List Symbol × List Symbol)
  | [] => none
  | some '"' :: rest => some ([], rest)
  | some '\\' :: some 'u' :: a :: b :: c :: d :: rest =>
    if (hexValue4? a b c d).isSome then
      (closeString rest).map fun (inner, after) =>
        (some '\\' :: some 'u' :: a :: b :: c :: d :: inner, after)
    else none
  | some '\\' :: some e :: rest =>
    if (unescape? e).isSome then
      (closeString rest).map fun (inner, after) => (some '\\' :: some e :: inner, after)
    else none
  | some '\\' :: _ => none
  | some c :: rest =>
    if c.toNat < 32 then none
    else (closeString rest).map fun (inner, after) => (some c :: inner, after)
  | none :: rest => (closeString rest).map fun (inner, after) => (none :: inner, after)

/-- The character that two surrogates stand for. -/
def joinSurrogates (high low : Nat) : Char :=
  Char.ofNat ((high - 0xD800) * 1024 + (low - 0xDC00) + 0x10000)

/-- A code unit that opens a pair of surrogates. -/
def isHighSurrogate (n : Nat) : Bool := 0xD800 ≤ n && n < 0xDC00

/-- A code unit that closes a pair of surrogates. -/
def isLowSurrogate (n : Nat) : Bool := 0xDC00 ≤ n && n < 0xE000

/-- The text that the inner part of a string denotes.  It denotes none if it
    holds bytes that are no text, or a surrogate without its partner. -/
def textOf? : List Symbol → Option (List Char)
  | [] => some []
  | some '\\' :: some 'u' :: a :: b :: c :: d ::
      some '\\' :: some 'u' :: a2 :: b2 :: c2 :: d2 :: rest =>
    match hexValue4? a b c d, hexValue4? a2 b2 c2 d2 with
    | some n, some n2 =>
      if isHighSurrogate n then
        if isLowSurrogate n2 then (textOf? rest).map (joinSurrogates n n2 :: ·) else none
      else if isLowSurrogate n then none
      else (textOf? (some '\\' :: some 'u' :: a2 :: b2 :: c2 :: d2 :: rest)).map (Char.ofNat n :: ·)
    | _, _ => none
  | some '\\' :: some 'u' :: a :: b :: c :: d :: rest =>
    match hexValue4? a b c d with
    | some n =>
      if isHighSurrogate n || isLowSurrogate n then none
      else (textOf? rest).map (Char.ofNat n :: ·)
    | none => none
  | some '\\' :: some e :: rest =>
    match unescape? e with
    | some c => (textOf? rest).map (c :: ·)
    | none => none
  | some c :: rest => (textOf? rest).map (c :: ·)
  | none :: _ => none

/-! ## Numbers and words -/

/-- A symbol that is an ASCII digit. -/
def isDigitSymbol : Symbol → Bool
  | some c => c.isDigit
  | none => false

/-- The digits in front and what follows them. -/
def takeDigits (input : List Symbol) : List Char × List Symbol :=
  ((input.takeWhile isDigitSymbol).filterMap id, input.dropWhile isDigitSymbol)

/-- The whole part of a number: a single zero, or digits that start with none. -/
def readWhole (input : List Symbol) : Option (List Char × List Symbol) :=
  match takeDigits input with
  | ([], _) => none
  | ('0' :: _ :: _, _) => none
  | (digits, rest) => some (digits, rest)

/-- The decimal places of a number, if a point announces them. -/
def readPlaces (input : List Symbol) : Option (List Char × List Symbol) :=
  match input with
  | some '.' :: rest =>
    match takeDigits rest with
    | ([], _) => none
    | (digits, rest) => some ('.' :: digits, rest)
  | _ => some ([], input)

/-- The digits of an exponent after its optional sign. -/
def readExponentDigits (mark : List Char) (input : List Symbol) :
    Option (List Char × List Symbol) :=
  match takeDigits input with
  | ([], _) => none
  | (digits, rest) => some (mark ++ digits, rest)

/-- The exponent of a number, if a letter announces one. -/
def readExponent (input : List Symbol) : Option (List Char × List Symbol) :=
  match input with
  | some 'e' :: some '+' :: rest => readExponentDigits ['e', '+'] rest
  | some 'e' :: some '-' :: rest => readExponentDigits ['e', '-'] rest
  | some 'e' :: rest => readExponentDigits ['e'] rest
  | some 'E' :: some '+' :: rest => readExponentDigits ['E', '+'] rest
  | some 'E' :: some '-' :: rest => readExponentDigits ['E', '-'] rest
  | some 'E' :: rest => readExponentDigits ['E'] rest
  | _ => some ([], input)

/-- A number without its sign. -/
def readUnsigned (input : List Symbol) : Option (List Char × List Symbol) := do
  let (whole, rest) ← readWhole input
  let (places, rest) ← readPlaces rest
  let (exponent, rest) ← readExponent rest
  return (whole ++ places ++ exponent, rest)

/-- A number as it is written. -/
def readNumber (input : List Symbol) : Option (List Char × List Symbol) :=
  match input with
  | some '-' :: rest => (readUnsigned rest).map fun (digits, rest) => ('-' :: digits, rest)
  | _ => readUnsigned input

/-- What follows a word that the input starts with. -/
def dropWord? : List Char → List Symbol → Option (List Symbol)
  | [], input => some input
  | c :: word, some d :: rest => if c = d then dropWord? word rest else none
  | _ :: _, _ => none

/-! ## Values -/

/-- Blanks between the parts of a document. -/
def isGap : Symbol → Bool
  | some c => c == ' ' || c == '\n' || c == '\t' || c == '\r'
  | none => false

/-- The input without the blanks in front. -/
def skipGap (input : List Symbol) : List Symbol :=
  input.dropWhile isGap

/-- Reads a word or a number. -/
def readAtom (input : List Symbol) : Option (Written × List Symbol) :=
  match input with
  | some 'n' :: _ => (dropWord? "null".toList input).map fun rest => (.null, rest)
  | some 't' :: _ => (dropWord? "true".toList input).map fun rest => (.bool true, rest)
  | some 'f' :: _ => (dropWord? "false".toList input).map fun rest => (.bool false, rest)
  | _ => (readNumber input).map fun (digits, rest) => (.number digits, rest)

mutual

/-- Reads a value, with or without blanks in front.  Every step into a part of
    the value uses up some `fuel` and at least as much of the input. -/
def readValue : (fuel : Nat) → List Symbol → Option (Written × List Symbol)
  | 0, _ => none
  | fuel + 1, input =>
    match skipGap input with
    | some '"' :: rest => (closeString rest).map fun (inner, rest) => (.string inner, rest)
    | some '[' :: rest =>
      match skipGap rest with
      | some ']' :: rest => some (.array [], rest)
      | _ => (readItems fuel rest).map fun (items, rest) => (.array items, rest)
    | some '\x7b' :: rest =>
      match skipGap rest with
      | some '\x7d' :: rest => some (.object [], rest)
      | _ => (readMembers fuel rest).map fun (members, rest) => (.object members, rest)
    | input => readAtom input

/-- Reads the items of an array up to its closing bracket. -/
def readItems : (fuel : Nat) → List Symbol → Option (List Written × List Symbol)
  | 0, _ => none
  | fuel + 1, input =>
    match readValue fuel input with
    | none => none
    | some (item, rest) =>
      match skipGap rest with
      | some ',' :: rest => (readItems fuel rest).map fun (items, rest) => (item :: items, rest)
      | some ']' :: rest => some ([item], rest)
      | _ => none

/-- Reads the members of an object up to its closing brace. -/
def readMembers : (fuel : Nat) → List Symbol → Option (List (List Symbol × Written) × List Symbol)
  | 0, _ => none
  | fuel + 1, input =>
    match skipGap input with
    | some '"' :: rest =>
      match closeString rest with
      | none => none
      | some (key, rest) =>
        match skipGap rest with
        | some ':' :: rest =>
          match readValue fuel rest with
          | none => none
          | some (value, rest) =>
            match skipGap rest with
            | some ',' :: rest =>
              (readMembers fuel rest).map fun (members, rest) => ((key, value) :: members, rest)
            | some '\x7d' :: rest => some ([(key, value)], rest)
            | _ => none
        | _ => none
    | _ => none

end

/-- Reads a document: one value with nothing but blanks around it. -/
def read? (input : List Symbol) : Option Written :=
  match readValue (input.length + 1) input with
  | some (value, rest) => if (skipGap rest).isEmpty then some value else none
  | none => none

/-- The symbols of bytes from a position on. -/
def symbolsFrom (bytes : ByteArray) : (fuel : Nat) → (position : Nat) → List Symbol
  | 0, _ => []
  | fuel + 1, position =>
    if bytes.size ≤ position then []
    else match bytes.utf8DecodeChar? position with
      | some c => some c :: symbolsFrom bytes fuel (position + c.utf8Size)
      | none => none :: symbolsFrom bytes fuel (position + 1)

/-- The symbols that bytes stand for. -/
def symbols (bytes : ByteArray) : List Symbol :=
  symbolsFrom bytes bytes.size 0

/-- Reads a document given as text. -/
def readText? (text : String) : Option Written :=
  read? (text.toList.map some)

end SnippetScope.Json
