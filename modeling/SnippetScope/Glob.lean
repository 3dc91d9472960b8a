/-
  SnippetScope.Glob

  Patterns of paths.  A star stands for any text, slashes included, a
  question mark for one byte; two stars between slashes stand for any number
  of directories.  Patterns are matched against the bytes of a path, from the
  end: each token marks the places from which it leads to a marked one.
-/
import SnippetScope.Marks

namespace SnippetScope

/-- The bytes of a text. -/
def utf8Bytes (text : List Char) : List UInt8 :=
  text.flatMap String.utf8EncodeChar

namespace Glob

open Marks (beforeOne beforeRun)

/-- A part of a pattern. -/
inductive Token where
  | literal (c : Char)
  /-- Any one byte. -/
  | anyByte
  /-- Any bytes. -/
  | anyText
  /-- Any directories in front, or a slash, or nothing. -/
  | leadingDirs
  /-- A slash and everything below it. -/
  | everythingBelow
  /-- A slash, or directories between two slashes. -/
  | innerDirs
  /-- One byte of the ranges, or one of none of them. -/
  | byteClass (negated : Bool) (ranges : List (Char × Char))
  /-- One of several branches. -/
  | choice (branches : List (List Token))

/-- A pattern is a sequence of tokens. -/
abbrev Tokens := List Token

/-! ## Void parts -/

mutual

/-- A token for which nothing is ever to be matched: a choice without a
    branch that asks for something. -/
def Token.isVoid : Token → Bool
  | .choice branches => allVoid branches
  | _ => false

/-- A sequence of void tokens. -/
def isVoidAll : List Token → Bool
  | [] => true
  | t :: rest => t.isVoid && isVoidAll rest

/-- Branches all of which are void. -/
def allVoid : List (List Token) → Bool
  | [] => true
  | branch :: rest => isVoidAll branch && allVoid rest

end

/-! ## Matching -/

/-- The slash between directories. -/
def slash : UInt8 := 47

/-- The single bytes and ranges of bytes that a range of characters amounts
    to: all bytes of a lone character; of two, the bytes of both, with the
    last byte of the first and the first byte of the second joined to a range. -/
def byteRanges (range : Char × Char) : List (UInt8 × UInt8) :=
  let low := String.utf8EncodeChar range.1
  let high := String.utf8EncodeChar range.2
  if range.1 = range.2 then low.map fun b => (b, b)
  else match low.getLast?, high with
    | some l, h :: rest => (low.dropLast.map fun b => (b, b)) ++ (l, h) :: rest.map fun b => (b, b)
    | _, _ => []

/-- A byte belongs to one of the ranges. -/
def inByteRanges (ranges : List (Char × Char)) (b : UInt8) : Bool :=
  (ranges.flatMap byteRanges).any fun r => r.1 ≤ b && b ≤ r.2

/-- The places from which a path of directories, or none, leads to a marked
    place. -/
def beforeDirs (input : List UInt8) (marks : Marks) : Marks :=
  .oneOf marks (beforeRun (fun _ => true) input (beforeOne (· == slash) input marks))

mutual

/-- The places from which the token leads to a marked place. -/
def Token.before (input : List UInt8) (marks : Marks) : Token → Marks
  | .literal c =>
    (String.utf8EncodeChar c).foldr (fun b later => beforeOne (· == b) input later) marks
  | .anyByte => beforeOne (fun _ => true) input marks
  | .anyText => beforeRun (fun _ => true) input marks
  | .leadingDirs => beforeDirs input marks
  | .everythingBelow => beforeOne (· == slash) input (beforeRun (fun _ => true) input marks)
  | .innerDirs => beforeOne (· == slash) input (beforeDirs input marks)
  | .byteClass negated ranges => beforeOne (fun b => inByteRanges ranges b != negated) input marks
  | .choice branches => if allVoid branches then marks else beforeSome input marks branches

/-- The places from which all tokens in turn lead to a marked place. -/
def beforeAll (input : List UInt8) (marks : Marks) : List Token → Marks
  | [] => marks
  | t :: rest => t.before input (beforeAll input marks rest)

/-- The places from which a branch that is not void leads to a marked place. -/
def beforeSome (input : List UInt8) (marks : Marks) : List (List Token) → Marks
  | [] => marks.map fun _ => false
  | branch :: rest =>
    if isVoidAll branch then beforeSome input marks rest
    else .oneOf (beforeAll input marks branch) (beforeSome input marks rest)

end

/-- Only the place after the last byte is marked. -/
def atEnd (input : List UInt8) : Marks :=
  input.foldr (fun _ marks => false :: marks) [true]

/-- The tokens match the whole of the bytes.  Two stars alone match all. -/
def matchesBytes (tokens : Tokens) (input : List UInt8) : Bool :=
  match tokens with
  | [.leadingDirs] => true
  | _ => (beforeAll input (atEnd input) tokens).headD false

/-- The tokens match the whole path. -/
def matchesPath (tokens : Tokens) (path : String) : Bool :=
  matchesBytes tokens (utf8Bytes path.toList)

end Glob

end SnippetScope
