/-
  SnippetScope.Structure.Detection

  Guessing from words in a text which data structures it works with.  Only
  arrays are sampled from the text itself, from its first list of numbers in
  braces or brackets; the other kinds get a fixed sample.
-/
import SnippetScope.Pattern.Search
import SnippetScope.Structure
import SnippetScope.Text.Blank
import SnippetScope.Text.Lines
import SnippetScope.Text.Search
import SnippetScope.Unicode.LowerCase

namespace SnippetScope

namespace ArrayLiteral

/-- The most numbers that a sample takes from a text. -/
def maxSample : Nat := 6

/-- The greatest number that a sample can hold. -/
def maxValue : Nat := Nat.pow 2 63 - 1

/-- A non-empty text between two marks that holds neither. -/
def group (opening closing : Char) : Pattern :=
  .one (· == opening) ++ .naming (.longest (fun c => c != opening && c != closing) 1)
    ++ .one (· == closing)

/-- The groups of a text between two marks, in order. -/
def groups (opening closing : Char) (text : List Char) : List (List Char) :=
  ((group opening closing).findAll text).filterMap (·.name)

/-- A token of ASCII digits only. -/
def isNumeral (token : List Char) : Bool :=
  !token.isEmpty && token.all Char.isDigit

/-- The number that decimal digits denote. -/
def numeralValue (token : List Char) : Nat :=
  token.foldl (fun n c => 10 * n + (c.toNat - 48)) 0

/-- The numerals among the comma-separated parts of a group. -/
def numerals (group : List Char) : List (List Char) :=
  ((Text.splitAt ',' group).map Text.trim).filter isNumeral

/-- The first numbers of a group, if it has any and none is too great. -/
def sampleOf? (group : List Char) : Option (List Nat) :=
  let values := (numerals group).map numeralValue
  if values.isEmpty then none
  else if values.all (· ≤ maxValue) then some (values.take maxSample)
  else none

/-- The sample of the first usable group in braces or, failing that, in
    brackets. -/
def ofText? (text : List Char) : Option (List Nat) :=
  (groups '\x7b' '\x7d' text ++ groups '[' ']' text).findSome? sampleOf?

end ArrayLiteral

namespace StructureKind

/-- Words that betray a kind in a lower-cased text. -/
def signs : StructureKind → List String
  | array => ["array"]
  | linkedList => ["node", "next", "linkedlist"]
  | stack => ["stack", "push", "pop"]
  | queue => ["queue", "enqueue", "dequeue"]
  | binaryTree => ["tree", "binary", "root"]
  | hashTable => ["map", "hash", "dict", "hashmap"]

/-- The sample of a kind whose contents the text does not tell. -/
def standardSample : StructureKind → Sample
  | array => .integers [64, 34, 25, 12, 22]
  | linkedList => .integers [10, 20, 30, 40]
  | stack => .integers [1, 2, 3, 4, 5]
  | queue => .labels ["A", "B", "C", "D"]
  | binaryTree => .levelOrder [1, 2, 3, 4, 5, 6, 7]
  | hashTable => .mapping [("key1", "val1"), ("key2", "val2"), ("key3", "val3")]

/-- A text shows signs of a kind when one of its words occurs, in whatever
    case; for an array an opening bracket will do. -/
def shows (text : List Char) (kind : StructureKind) : Bool :=
  (kind == array && text.contains '[')
    || kind.signs.any fun word => Text.occurs word.toList (Unicode.lowerCase text)

/-- The sample of a kind for a text. -/
def sampleFrom (text : List Char) : StructureKind → Sample
  | array =>
    match ArrayLiteral.ofText? text with
    | some values => .integers (values.map Int.ofNat)
    | none => standardSample array
  | kind => standardSample kind

end StructureKind

/-- The structures that a text shows signs of, each with its sample. -/
def StructureSet.ofText (text : List Char) : StructureSet :=
  (StructureKind.all.filter (·.shows text)).foldl
    (fun set kind => set.insert kind (kind.sampleFrom text)) .empty

end SnippetScope
