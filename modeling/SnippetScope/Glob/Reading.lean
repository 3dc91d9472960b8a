/-
  SnippetScope.Glob.Reading

  Reading a pattern of paths from its text, one character after the other.
-/
import SnippetScope.Glob

namespace SnippetScope.Glob

/-- Why a text is no pattern. -/
inductive Fault where
  | unclosedClass
  | invalidRange (low high : Char)
  | unopenedChoice
  | unclosedChoice
  | danglingEscape
  deriving DecidableEq, Repr

/-- The text of a fault. -/
def Fault.message : Fault → String
  | unclosedClass => "unclosed character class; missing ']'"
  | invalidRange low high =>
    "invalid range; '" ++ String.singleton low ++ "' > '" ++ String.singleton high ++ "'"
  | unopenedChoice =>
    "unopened alternate group; missing '\x7b' (maybe escape '\x7d' with '[\x7d]'?)"
  | unclosedChoice =>
    "unclosed alternate group; missing '\x7d' (maybe escape '\x7b' with '[\x7b]'?)"
  | danglingEscape => "dangling '\\'"

/-- A choice that is being read: its finished branches, last first, and the
    tokens in front of it, last first. -/
structure OpenChoice where
  branches : List Tokens
  before : Tokens

/-- What has been read: the tokens of the present branch, last first, and the
    open choices around it, innermost first. -/
structure Reader where
  tokens : Tokens
  choices : List OpenChoice

namespace Reader

/-- Nothing has been read. -/
def start : Reader := ⟨[], []⟩

/-- Adds a token to the present branch. -/
def push (r : Reader) (t : Token) : Reader := { r with tokens := t :: r.tokens }

/-- Puts a token in the place of the last one. -/
def replaceLast (r : Reader) (t : Token) : Reader := { r with tokens := t :: r.tokens.tail }

/-- Opens a choice. -/
def openChoice (r : Reader) : Reader := ⟨[], ⟨[], r.tokens⟩ :: r.choices⟩

/-- A comma ends a branch inside a choice and stands for itself elsewhere. -/
def comma (r : Reader) : Reader :=
  match r.choices with
  | [] => r.push (.literal ',')
  | c :: outer => ⟨[], ⟨r.tokens.reverse :: c.branches, c.before⟩ :: outer⟩

/-- Closes the innermost choice. -/
def closeChoice (r : Reader) : Except Fault Reader :=
  match r.choices with
  | [] => .error .unopenedChoice
  | c :: outer =>
    .ok ⟨.choice ((r.tokens.reverse :: c.branches).reverse) :: c.before, outer⟩

/-- Two stars that stand for nothing more than one. -/
def plainStars (r : Reader) : Reader := (r.push .anyText).push .anyText

/-- Two stars may stand for directories at the start of a branch, after a
    slash, and, inside a choice, after a comma or an opening brace. -/
def startsDirs (r : Reader) (prev : Option Char) : Bool :=
  prev == some '/' || (!r.choices.isEmpty && (prev == some ',' || prev == some '\x7b'))

/-- Directories take the place of the slash in front of them, but not of other
    directories at the start or the end. -/
def joinDirs (r : Reader) (t : Token) : Reader :=
  match r.tokens with
  | .leadingDirs :: _ => r
  | .everythingBelow :: _ => r
  | _ => r.replaceLast t

/-- What two stars stand for between `prev` and `next`, and whether they take
    a slash that follows them with them. -/
def doubleStar (r : Reader) (prev next : Option Char) : Reader × Bool :=
  if r.tokens.isEmpty then
    if next == none || next == some '/' then (r.push .leadingDirs, true)
    else (r.plainStars, false)
  else if !r.startsDirs prev then (r.plainStars, false)
  else if next == none then (r.joinDirs .everythingBelow, false)
  else if !r.choices.isEmpty && (next == some ',' || next == some '\x7d') then
    (r.joinDirs .everythingBelow, false)
  else if next == some '/' then (r.joinDirs .innerDirs, true)
  else (r.plainStars, false)

end Reader

/-- A class that is being read. -/
structure OpenClass where
  negated : Bool
  /-- The ranges read so far, last first. -/
  ranges : List (Char × Char)
  /-- Nothing of the class has been read but its negation. -/
  fresh : Bool
  /-- A hyphen has been read that may join two characters to a range. -/
  joining : Bool

namespace OpenClass

/-- A class after its opening bracket. -/
def start (negated : Bool) : OpenClass := ⟨negated, [], true, false⟩

/-- Adds a character, or makes it the end of the last range. -/
def add (k : OpenClass) (c : Char) : Except Fault OpenClass :=
  match k.joining, k.ranges with
  | true, (low, _) :: rest =>
    if c < low then .error (.invalidRange low c)
    else .ok { k with ranges := (low, c) :: rest, fresh := false, joining := false }
  | _, ranges => .ok { k with ranges := (c, c) :: ranges, fresh := false, joining := false }

/-- A hyphen joins two characters unless it comes first or after another. -/
def hyphen (k : OpenClass) : Except Fault OpenClass :=
  if k.fresh || k.joining then k.add '-' else .ok { k with joining := true }

/-- The finished class; a hyphen at its end stands for itself. -/
def token (k : OpenClass) : Token :=
  .byteClass k.negated ((if k.joining then ('-', '-') :: k.ranges else k.ranges).reverse)

end OpenClass

mutual

/-- Reads the rest of a pattern after the character `prev`. -/
def readTokens (r : Reader) (prev : Option Char) : List Char → Except Fault Reader
  | [] => .ok r
  | '?' :: rest => readTokens (r.push .anyByte) (some '?') rest
  | '*' :: '*' :: '/' :: rest =>
    match r.doubleStar prev (some '/') with
    | (next, true) => readTokens next (some '/') rest
    | (next, false) => readTokens (next.push (.literal '/')) (some '/') rest
  | '*' :: '*' :: rest => readTokens (r.doubleStar prev rest.head?).1 (some '*') rest
  | '*' :: rest => readTokens (r.push .anyText) (some '*') rest
  | '[' :: '!' :: rest => readClass r (.start true) rest
  | '[' :: '^' :: rest => readClass r (.start true) rest
  | '[' :: rest => readClass r (.start false) rest
  | '\x7b' :: rest => readTokens r.openChoice (some '\x7b') rest
  | '\x7d' :: rest =>
    match r.closeChoice with
    | .ok next => readTokens next (some '\x7d') rest
    | .error fault => .error fault
  | ',' :: rest => readTokens r.comma (some ',') rest
  | '\\' :: c :: rest => readTokens (r.push (.literal c)) (some c) rest
  | ['\\'] => .error .danglingEscape
  | c :: rest => readTokens (r.push (.literal c)) (some c) rest

/-- Reads the rest of a class and of the pattern after it. -/
def readClass (r : Reader) (k : OpenClass) : List Char → Except Fault Reader
  | [] => .error .unclosedClass
  | ']' :: rest =>
    if k.fresh then
      match k.add ']' with
      | .ok next => readClass r next rest
      | .error fault => .error fault
    else readTokens (r.push k.token) (some ']') rest
  | '-' :: rest =>
    match k.hyphen with
    | .ok next => readClass r next rest
    | .error fault => .error fault
  | c :: rest =>
    match k.add c with
    | .ok next => readClass r next rest
    | .error fault => .error fault

end

/-- The pattern that a text denotes. -/
def read (text : String) : Except Fault Tokens := do
  let r ← readTokens .start none text.toList
  if r.choices.isEmpty then .ok r.tokens.reverse else .error .unclosedChoice

end SnippetScope.Glob
