/-
  SnippetScope.Structure

  Textbook data structures with sample values, and collections that hold at
  most one sample for each kind.
-/

namespace SnippetScope

/-- A kind of textbook data structure. -/
inductive StructureKind where
  | array
  | linkedList
  | stack
  | queue
  | binaryTree
  | hashTable
  deriving DecidableEq, Repr

namespace StructureKind

/-- All kinds, in the order in which a text is examined for them. -/
def all : List StructureKind := [array, linkedList, stack, queue, binaryTree, hashTable]

/-- The name used in reports. -/
def name : StructureKind → String
  | array => "array"
  | linkedList => "linked_list"
  | stack => "stack"
  | queue => "queue"
  | binaryTree => "binary_tree"
  | hashTable => "hash_table"

/-- The title shown to readers. -/
def title : StructureKind → String
  | array => "Array"
  | linkedList => "Linked List"
  | stack => "Stack"
  | queue => "Queue"
  | binaryTree => "Binary Tree"
  | hashTable => "Hash Table"

end StructureKind

/-- Values that stand for the contents of a structure. -/
inductive Sample where
  | integers (values : List Int)
  | labels (values : List String)
  /-- A complete binary tree, level by level: the children of the value at
      `i` stand at `2 * i + 1` and `2 * i + 2`. -/
  | levelOrder (values : List Int)
  | mapping (pairs : List (String × String))
  deriving DecidableEq, Repr

namespace Sample

/-- The number of values. -/
def size : Sample → Nat
  | integers values => values.length
  | labels values => values.length
  | levelOrder values => values.length
  | mapping pairs => pairs.length

/-- The values as they are shown, in order. -/
def shown : Sample → List String
  | integers values => values.map toString
  | labels values => values
  | levelOrder values => values.map toString
  | mapping pairs => pairs.map fun p => p.1 ++ ": " ++ p.2

end Sample

/-- A structure of a kind with its sample. -/
structure SampledStructure where
  kind : StructureKind
  sample : Sample
  deriving DecidableEq, Repr

/-- Structures in the order in which their kinds came in.  Built by `insert`,
    it has one non-empty sample for each kind it holds. -/
structure StructureSet where
  entries : List SampledStructure
  deriving DecidableEq, Repr

namespace StructureSet

/-- No structures. -/
def empty : StructureSet := ⟨[]⟩

/-- Puts the sample into the first entry of its kind, or into a new last
    entry if there is none. -/
def put (kind : StructureKind) (sample : Sample) : List SampledStructure → List SampledStructure
  | [] => [⟨kind, sample⟩]
  | e :: rest => if e.kind = kind then ⟨kind, sample⟩ :: rest else e :: put kind sample rest

/-- Adds a structure.  An earlier sample of the kind is replaced where it
    stands; an empty sample changes nothing. -/
def insert (set : StructureSet) (kind : StructureKind) (sample : Sample) : StructureSet :=
  if sample.size = 0 then set else ⟨put kind sample set.entries⟩

/-- The sample of a kind. -/
def get? (set : StructureSet) (kind : StructureKind) : Option Sample :=
  (set.entries.find? (·.kind = kind)).map (·.sample)

/-- The set holds a structure of the kind. -/
def contains (set : StructureSet) (kind : StructureKind) : Bool :=
  (set.get? kind).isSome

/-- The kinds in their order. -/
def kinds (set : StructureSet) : List StructureKind :=
  set.entries.map (·.kind)

/-- The number of structures. -/
def size (set : StructureSet) : Nat :=
  set.entries.length

/-- The set holds no structure. -/
def isEmpty (set : StructureSet) : Bool :=
  set.entries.isEmpty

end StructureSet

end SnippetScope
