/-
  SnippetScope.Pattern.Search

  Searching a whole text from left to right.  The text is cut into pieces,
  matches of the pattern and the characters between them.  The main statement
  is that looking only at the places where a match is known to start finds the
  same pieces.
-/
import SnippetScope.Pattern.Starts

namespace SnippetScope.Pattern

/-- A match, or a single character that belongs to none. -/
inductive Piece where
  | kept (c : Char)
  | found (m : Match)
  deriving DecidableEq, Repr

/-- The character of a piece that is not a match. -/
def Piece.kept? : Piece → Option Char
  | .kept c => some c
  | .found _ => none

/-- The match of a piece, if it is one. -/
def Piece.found? : Piece → Option Match
  | .kept _ => none
  | .found m => some m

/-- The pieces of a text after the character `prev`.  The first `skip`
    characters belong to a match that is already listed.  Each search starts
    after the end of the match before it. -/
def piecesFrom (pattern : Pattern) :
    (skip : Nat) → (prev : Option Char) → List Char → List Piece
  | _, _, [] => []
  | skip + 1, _, c :: rest => piecesFrom pattern skip (some c) rest
  | 0, prev, c :: rest =>
    match matchAt? pattern ⟨prev, c :: rest⟩ with
    | some ⟨_ :: tail, name⟩ =>
      .found ⟨c :: tail, name⟩ :: piecesFrom pattern tail.length (some c) rest
    | _ => .kept c :: piecesFrom pattern 0 (some c) rest

/-- The same pieces, with matches tried at marked places only. -/
def piecesAmong (pattern : Pattern) :
    (skip : Nat) → (prev : Option Char) → List Char → Marks → List Piece
  | skip + 1, _, c :: rest, _ :: later => piecesAmong pattern skip (some c) rest later
  | 0, _, c :: rest, false :: later => .kept c :: piecesAmong pattern 0 (some c) rest later
  | 0, prev, c :: rest, true :: later =>
    match matchAt? pattern ⟨prev, c :: rest⟩ with
    | some ⟨_ :: tail, name⟩ =>
      .found ⟨c :: tail, name⟩ :: piecesAmong pattern tail.length (some c) rest later
    | _ => .kept c :: piecesAmong pattern 0 (some c) rest later
  | _, _, _, _ => []

/-- The pieces of a text, in order. -/
def pieces (pattern : Pattern) (text : List Char) : List Piece :=
  piecesAmong pattern 0 none text (starts pattern text)

/-- No piece is lost at a place without a mark. -/
theorem piecesAmong_marksOf (pattern : Pattern) (skip : Nat) (prev : Option Char)
    (text : List Char) :
    piecesAmong pattern skip prev text
        (marksOf (fun place => (matchAt? pattern place).isSome) prev text)
      = piecesFrom pattern skip prev text := by
  induction text generalizing skip prev with
  | nil => cases skip <;> rfl
  | cons c rest ih =>
    cases skip with
    | succ skip => exact ih skip (some c)
    | zero =>
      simp only [marksOf, piecesFrom]
      cases hm : matchAt? pattern ⟨prev, c :: rest⟩ with
      | none => simp only [Option.isSome_none, piecesAmong, ih]
      | some m =>
        obtain ⟨covered, name⟩ := m
        cases covered <;> simp only [Option.isSome_some, piecesAmong, hm, ih]

/-- The pieces are those of trying every place in turn. -/
theorem pieces_eq (pattern : Pattern) (text : List Char) :
    pieces pattern text = piecesFrom pattern 0 none text := by
  rw [pieces, starts_eq, piecesAmong_marksOf]

/-- All matches, from left to right and without overlap. -/
def findAll (pattern : Pattern) (text : List Char) : List Match :=
  (pieces pattern text).filterMap Piece.found?

/-- The first match that starts at one of the places from `prev` on. -/
def findFrom? (pattern : Pattern) : (prev : Option Char) → List Char → Option Match
  | _, [] => none
  | prev, c :: rest =>
    match matchAt? pattern ⟨prev, c :: rest⟩ with
    | some m => some m
    | none => findFrom? pattern (some c) rest

/-- The leftmost match. -/
def find? (pattern : Pattern) (text : List Char) : Option Match :=
  findFrom? pattern none text

/-- Some match starts in the text or at its end. -/
def isIn (pattern : Pattern) (text : List Char) : Bool :=
  (starts pattern text).any id

/-- The text without its matches. -/
def remove (pattern : Pattern) (text : List Char) : List Char :=
  (pieces pattern text).filterMap Piece.kept?

end SnippetScope.Pattern
