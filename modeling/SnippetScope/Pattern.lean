/-
  SnippetScope.Pattern

  Patterns over texts.  A pattern repeats only single characters of a class,
  so trying it needs no bound but the text itself.  Of all ways to match, the
  one that the pattern prefers counts: earlier alternatives before later
  ones, long repetitions before short ones unless marked as short.
-/
import SnippetScope.Unicode.Word

namespace SnippetScope

/-- A set of characters, given by its test. -/
abbrev CharSet := Char → Bool

/-- What a snippet is searched for. -/
inductive Pattern where
  /-- The empty text. -/
  | empty
  /-- One character of the set. -/
  | one (set : CharSet)
  /-- At least `least` characters of the set, as many as possible. -/
  | longest (set : CharSet) (least : Nat)
  /-- Any number of characters of the set, as few as possible. -/
  | shortest (set : CharSet)
  /-- A word character stands on exactly one side of this place. -/
  | boundary
  /-- One pattern after the other. -/
  | seq (first second : Pattern)
  /-- The first pattern or, failing that, the second. -/
  | either (first second : Pattern)
  /-- The pattern, whose text is the name that the whole match gives. -/
  | naming (inner : Pattern)

namespace Pattern

/-- A place in a text: the character before it and what follows it. -/
structure Place where
  prev : Option Char
  rest : List Char
  deriving DecidableEq, Repr

/-- The stretch of text that leads from one place to a later one. -/
def Place.upTo (start stop : Place) : List Char :=
  start.rest.take (start.rest.length - stop.rest.length)

/-- A way to match so far: the place reached, and the ends of the stretch
    that gives the name. -/
structure Progress where
  place : Place
  named : Option (Place × Place)
  deriving DecidableEq, Repr

/-- The set holds the character before or after the place, if there is one. -/
def holds (set : CharSet) : Option Char → Bool
  | some c => set c
  | none => false

/-- A word character stands on exactly one side of the place. -/
def Place.atBoundary (p : Place) : Bool :=
  holds Unicode.isWord p.prev != holds Unicode.isWord p.rest.head?

/-- Takes characters of the set while it can, then goes on with the longest
    run, with more than `least` characters, from which `next` succeeds. -/
def tryLongest {α : Type} (set : CharSet) (next : Place → Option α) :
    (least : Nat) → (prev : Option Char) → (rest : List Char) → Option α
  | 0, prev, [] => next ⟨prev, []⟩
  | _ + 1, _, [] => none
  | 0, prev, c :: rest =>
    if set c then
      match tryLongest set next 0 (some c) rest with
      | some found => some found
      | none => next ⟨prev, c :: rest⟩
    else next ⟨prev, c :: rest⟩
  | least + 1, _, c :: rest =>
    if set c then tryLongest set next least (some c) rest else none

/-- Goes on with the shortest run of the set from which `next` succeeds. -/
def tryShortest {α : Type} (set : CharSet) (next : Place → Option α) :
    (prev : Option Char) → (rest : List Char) → Option α
  | prev, [] => next ⟨prev, []⟩
  | prev, c :: rest =>
    match next ⟨prev, c :: rest⟩ with
    | some found => some found
    | none => if set c then tryShortest set next (some c) rest else none

/-- Matches the pattern from here on and then goes on with `next`; the answer
    is that of the first way in the order of preference that succeeds. -/
def tryMatch {α : Type} : Pattern → Progress → (Progress → Option α) → Option α
  | .empty, p, next => next p
  | .one set, p, next =>
    match p.place.rest with
    | [] => none
    | c :: rest => if set c then next { p with place := ⟨some c, rest⟩ } else none
  | .longest set least, p, next =>
    tryLongest set (fun place => next { p with place := place }) least p.place.prev p.place.rest
  | .shortest set, p, next =>
    tryShortest set (fun place => next { p with place := place }) p.place.prev p.place.rest
  | .boundary, p, next => if p.place.atBoundary then next p else none
  | .seq a b, p, next => tryMatch a p fun q => tryMatch b q next
  | .either a b, p, next =>
    match tryMatch a p next with
    | some found => some found
    | none => tryMatch b p next
  | .naming a, p, next =>
    tryMatch a p fun q => next { q with named := some (p.place, q.place) }

/-- A match: the text that it covers, and the part of it that gives the name. -/
structure Match where
  text : List Char
  name : Option (List Char)
  deriving DecidableEq, Repr

/-- The preferred match that starts at the place. -/
def matchAt? (pattern : Pattern) (start : Place) : Option Match :=
  tryMatch pattern ⟨start, none⟩ fun stop =>
    some ⟨start.upTo stop.place, stop.named.map fun ends => ends.1.upTo ends.2⟩

/-! ## Building patterns -/

/-- One pattern after the other. -/
instance : Append Pattern := ⟨.seq⟩

/-- One pattern or, failing that, the other. -/
instance : OrElse Pattern := ⟨fun a b => .either a (b ())⟩

/-- Exactly the characters of a text. -/
def text (literal : String) : Pattern :=
  literal.toList.foldr (fun c rest => .seq (.one (· == c)) rest) .empty

/-- The pattern if it can be matched, the empty text otherwise. -/
def optional (pattern : Pattern) : Pattern :=
  .either pattern .empty

/-- One character of those listed. -/
def anyOf (chars : String) : CharSet :=
  fun c => chars.toList.contains c

/-- One character that is not listed. -/
def noneOf (chars : String) : CharSet :=
  fun c => !chars.toList.contains c

end Pattern

end SnippetScope
