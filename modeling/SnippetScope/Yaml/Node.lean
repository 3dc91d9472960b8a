/-
  SnippetScope.Yaml.Node

  The values that YAML texts denote, and their reading from tokens.
-/
import SnippetScope.Yaml.Token

namespace SnippetScope.Yaml

/-- A value of a YAML text.  Anchors are known by their numbers. -/
inductive Node where
  | scalar (anchor : Option Nat) (tag : Option (List Char)) (style : Style) (text : List Char)
  | sequence (anchor : Option Nat) (items : List Node)
  | mapping (anchor : Option Nat) (pairs : List (Node × Node))
  | reference (target : Nat)

namespace Node

/-- The value where nothing is written. -/
def empty : Node := .scalar none none .plain []

/-- The number of the anchor at the node itself. -/
def anchor? : Node → Option Nat
  | .scalar anchor .. => anchor
  | .sequence anchor _ => anchor
  | .mapping anchor _ => anchor
  | .reference _ => none

/-! ## Anchors -/

mutual
/-- The last node within a node, in the order of the text, that has the anchor. -/
def anchored? (n : Nat) (node : Node) : Option Node :=
  let inner := match node with
    | .scalar .. | .reference _ => none
    | .sequence _ items => anchoredIn? n items
    | .mapping _ pairs => anchoredAmong? n pairs
  inner <|> (if node.anchor? = some n then some node else none)

/-- The last node with the anchor within nodes that follow each other. -/
def anchoredIn? (n : Nat) : List Node → Option Node
  | [] => none
  | item :: rest => anchoredIn? n rest <|> anchored? n item

/-- The last node with the anchor within pairs that follow each other. -/
def anchoredAmong? (n : Nat) : List (Node × Node) → Option Node
  | [] => none
  | (k, v) :: rest => anchoredAmong? n rest <|> anchored? n v <|> anchored? n k
end

/-! ## Reading nodes -/

/-- The tokens that are left, and the anchors met so far with their numbers. -/
structure Feed where
  tokens : List Token
  anchors : List (List Char × Nat)

/-- What stands in front of a node. -/
structure Marks where
  anchor : Option Nat
  tag : Option (List Char)

/-- The scalar where nothing but marks is written. -/
def Marks.emptyScalar? (m : Marks) : Option Node :=
  if m.anchor.isNone && m.tag.isNone then none
  else some (.scalar m.anchor m.tag .plain [])

/-- A scalar; a single exclamation mark as its tag says nothing. -/
def Marks.scalar (m : Marks) (style : Style) (text : List Char) : Node :=
  .scalar m.anchor (if m.tag = some ['!'] then none else m.tag) style text

/-- Gives a name its number, the number of other names known by then.  A name
    that is met again gets a new number. -/
def Feed.register (f : Feed) (name : List Char) : Nat × Feed :=
  (f.anchors.length, { f with
    anchors := (name, f.anchors.length) :: f.anchors.filter (·.1 != name) })

/-- The meanings of the handles of tags. -/
abbrev Handles := List (List Char × List Char)

/-- The tag that a handle and an ending stand for. -/
def Handles.tag? (handles : Handles) (handle ending : List Char) : Option (List Char) :=
  if handle.isEmpty then some ending
  else (handles.lookup handle).map (· ++ ending)

/-- Reads an anchor, if one stands here. -/
def Feed.takeAnchor (f : Feed) : Option Nat × Feed :=
  match f.tokens with
  | .anchor name :: rest =>
    let (number, f) := { f with tokens := rest }.register name
    (some number, f)
  | _ => (none, f)

/-- Reads a tag, if one stands here. -/
def Feed.takeTag (handles : Handles) (f : Feed) : Option (Option (List Char) × Feed) :=
  match f.tokens with
  | .tag handle ending :: rest =>
    (handles.tag? handle ending).map fun tag => (some tag, { f with tokens := rest })
  | _ => some (none, f)

/-- Reads the marks in front of a node, in any order. -/
def Feed.takeMarks (handles : Handles) (f : Feed) : Option (Marks × Feed) := do
  let (before, f) := f.takeAnchor
  let (tag, f) ← f.takeTag handles
  if before.isSome || tag.isNone then return (⟨before, tag⟩, f)
  else
    let (anchor, f) := f.takeAnchor
    return (⟨anchor, tag⟩, f)

/-- The next token is one of the given ones. -/
def Feed.isAt (f : Feed) (tokens : List Token) : Bool :=
  (f.tokens.head?.map tokens.contains).getD false

/-- Moves on over the token, if it is next. -/
def Feed.skip? (f : Feed) (t : Token) : Option Feed :=
  match f.tokens with
  | x :: rest => if x = t then some { f with tokens := rest } else none
  | [] => none

/-- Where a node may stand. -/
structure Setting where
  /-- Collections without brackets may start here. -/
  block : Bool
  /-- A sequence may start here without deeper indentation. -/
  flush : Bool

mutual
/-- Reads a node. -/
def readNode (handles : Handles) : (fuel : Nat) → Setting → Feed → Option (Node × Feed)
  | 0, _, _ => none
  | fuel + 1, setting, f =>
    match f.tokens with
    | .reference name :: rest =>
      (f.anchors.lookup name).map fun n => (.reference n, { f with tokens := rest })
    | _ => do
      let (marks, f) ← f.takeMarks handles
      let onlyMarks := marks.emptyScalar?.map fun node => (node, f)
      match f.tokens with
      | .scalar style text :: rest => return (marks.scalar style text, { f with tokens := rest })
      | .flowSequenceStart :: rest =>
        let (items, f) ← readFlowItems handles fuel true { f with tokens := rest }
        return (.sequence marks.anchor items, f)
      | .flowMappingStart :: rest =>
        let (pairs, f) ← readFlowPairs handles fuel true { f with tokens := rest }
        return (.mapping marks.anchor pairs, f)
      | .blockEntry :: _ =>
        if setting.flush then
          let (items, f) ← readFlushItems handles fuel f
          return (.sequence marks.anchor items, f)
        else onlyMarks
      | .blockSequenceStart :: rest =>
        if setting.block then
          let (items, f) ← readBlockItems handles fuel { f with tokens := rest }
          return (.sequence marks.anchor items, f)
        else onlyMarks
      | .blockMappingStart :: rest =>
        if setting.block then
          let (pairs, f) ← readBlockPairs handles fuel { f with tokens := rest }
          return (.mapping marks.anchor pairs, f)
        else onlyMarks
      | _ => onlyMarks

/-- Reads a node, unless one of the tokens that end it stands here. -/
def readNodeUnless (handles : Handles) :
    (fuel : Nat) → Setting → List Token → Feed → Option (Node × Feed)
  | 0, _, _, _ => none
  | fuel + 1, setting, ends, f =>
    if f.isAt ends then some (empty, f) else readNode handles fuel setting f

/-- Reads the value of a pair, which may be missing. -/
def readValue (handles : Handles) :
    (fuel : Nat) → Setting → List Token → Feed → Option (Node × Feed)
  | 0, _, _, _ => none
  | fuel + 1, setting, ends, f =>
    match f.skip? .value with
    | some f => readNodeUnless handles fuel setting ends f
    | none => some (empty, f)

/-- Reads the items of a sequence and its end. -/
def readBlockItems (handles : Handles) : (fuel : Nat) → Feed → Option (List Node × Feed)
  | 0, _ => none
  | fuel + 1, f =>
    match f.tokens with
    | .blockEntry :: rest => do
      let (item, f) ← readNodeUnless handles fuel ⟨true, false⟩ [.blockEntry, .blockEnd]
        { f with tokens := rest }
      let (items, f) ← readBlockItems handles fuel f
      return (item :: items, f)
    | .blockEnd :: rest => some ([], { f with tokens := rest })
    | _ => none

/-- Reads the items of a sequence that is not indented; it ends where no
    further item starts. -/
def readFlushItems (handles : Handles) : (fuel : Nat) → Feed → Option (List Node × Feed)
  | 0, _ => none
  | fuel + 1, f =>
    match f.tokens with
    | .blockEntry :: rest => do
      let (item, f) ← readNodeUnless handles fuel ⟨true, false⟩
        [.blockEntry, .key, .value, .blockEnd] { f with tokens := rest }
      let (items, f) ← readFlushItems handles fuel f
      return (item :: items, f)
    | _ => some ([], f)

/-- Reads the pairs of a mapping and its end. -/
def readBlockPairs (handles : Handles) : (fuel : Nat) → Feed → Option (List (Node × Node) × Feed)
  | 0, _ => none
  | fuel + 1, f =>
    match f.tokens with
    | .key :: rest => do
      let ends := [Token.key, .value, .blockEnd]
      let (key, f) ← readNodeUnless handles fuel ⟨true, true⟩ ends { f with tokens := rest }
      let (value, f) ← readValue handles fuel ⟨true, true⟩ ends f
      let (pairs, f) ← readBlockPairs handles fuel f
      return ((key, value) :: pairs, f)
    | .blockEnd :: rest => some ([], { f with tokens := rest })
    | _ => none

/-- Reads the items of a sequence in brackets and its end.  A key among them
    makes a mapping of one pair; a token that stands for an empty key is lost. -/
def readFlowItems (handles : Handles) :
    (fuel : Nat) → (first : Bool) → Feed → Option (List Node × Feed)
  | 0, _, _ => none
  | fuel + 1, first, f =>
    match f.skip? .flowSequenceEnd with
    | some f => some ([], f)
    | none => do
      let f ← if first then some f else f.skip? .flowEntry
      match f.tokens with
      | .flowSequenceEnd :: rest => return ([], { f with tokens := rest })
      | .key :: rest =>
        let f := { f with tokens := rest }
        let (key, f) ←
          if f.isAt [.value, .flowEntry, .flowSequenceEnd] then
            some (empty, { f with tokens := f.tokens.tail })
          else readNode handles fuel ⟨false, false⟩ f
        let (value, f) ← readValue handles fuel ⟨false, false⟩ [.flowEntry, .flowSequenceEnd] f
        let (items, f) ← readFlowItems handles fuel false f
        return (.mapping none [(key, value)] :: items, f)
      | _ =>
        let (item, f) ← readNode handles fuel ⟨false, false⟩ f
        let (items, f) ← readFlowItems handles fuel false f
        return (item :: items, f)

/-- Reads the pairs of a mapping in brackets and its end. -/
def readFlowPairs (handles : Handles) :
    (fuel : Nat) → (first : Bool) → Feed → Option (List (Node × Node) × Feed)
  | 0, _, _ => none
  | fuel + 1, first, f =>
    match f.skip? .flowMappingEnd with
    | some f => some ([], f)
    | none => do
      let f ← if first then some f else f.skip? .flowEntry
      match f.tokens with
      | .flowMappingEnd :: rest => return ([], { f with tokens := rest })
      | .key :: rest =>
        let (key, f) ← readNodeUnless handles fuel ⟨false, false⟩
          [.value, .flowEntry, .flowMappingEnd] { f with tokens := rest }
        let (value, f) ← readValue handles fuel ⟨false, false⟩ [.flowEntry, .flowMappingEnd] f
        let (pairs, f) ← readFlowPairs handles fuel false f
        return ((key, value) :: pairs, f)
      | _ =>
        let (key, f) ← readNode handles fuel ⟨false, false⟩ f
        let (pairs, f) ← readFlowPairs handles fuel false f
        return ((key, empty) :: pairs, f)
end

/-! ## Documents -/

/-- Handles that need no directive. -/
def commonHandles : Handles :=
  [(['!'], ['!']), (['!', '!'], "tag:yaml.org,2002:".toList)]

/-- Reads the directives of a document: at most one version, which must be
    known, and at most one meaning for each handle. -/
def readDirectives (versioned : Bool) (handles : Handles) :
    List Token → Option (Handles × List Token)
  | .version major minor :: rest =>
    if versioned || major != 1 || (minor != 1 && minor != 2) then none
    else readDirectives true handles rest
  | .tagShorthand handle meaning :: rest =>
    if (handles.lookup handle).isSome then none
    else readDirectives versioned ((handle, meaning) :: handles) rest
  | tokens => some (handles, tokens)

/-- Reads a node that must be the whole of a text. -/
def readOnly (handles : Handles) (fuel : Nat) (f : Feed) : Option Node := do
  let (node, f) ← readNodeUnless handles fuel ⟨true, false⟩
    [.documentStart, .documentEnd, .streamEnd] f
  match f.tokens.dropWhile (· = .documentEnd) with
  | .streamEnd :: _ => return node
  | _ => none

/-- The value of a sequence of tokens that holds at most one document; an
    absent document has the empty value. -/
def ofTokens? (tokens : List Token) : Option Node :=
  let fuel := 8 * (tokens.length + 1)
  match tokens with
  | .streamEnd :: _ => some empty
  | .documentEnd :: _ => none
  | _ => do
    let (own, rest) ← readDirectives false [] tokens
    let handles := own ++ commonHandles
    match rest with
    | .documentStart :: rest => readOnly handles fuel ⟨rest, []⟩
    | _ => if rest.length = tokens.length then readOnly handles fuel ⟨rest, []⟩ else none

/-- The value of a text; `none` if the text is no single document. -/
def ofText? (text : List Char) : Option Node :=
  (tokens? text).bind ofTokens?

end Node

end SnippetScope.Yaml
