/-
  SnippetScope.Yaml.Record

  Typed values in YAML documents: texts, numbers, collections and records.
-/
import SnippetScope.Yaml.Node

namespace SnippetScope.Yaml.Node

/-- The node that a node of a document stands for. -/
def target? (root : Node) : Node → Option Node
  | reference n => root.anchored? n
  | node => some node

/-! ## Scalars -/

/-- The text of a scalar of any style. -/
def text? (root node : Node) : Option String :=
  match target? root node with
  | some (scalar _ _ _ text) => some (String.ofList text)
  | _ => none

/-- The text of a scalar that may denote a value of the standard type: a plain
    one, or a literal block with the type's tag. -/
def typedText? (type : String) (root node : Node) : Option (List Char) :=
  match target? root node with
  | some (scalar _ _ .plain text) => some text
  | some (scalar _ (some tag) .literal text) =>
    if tag = ("tag:yaml.org,2002:" ++ type).toList then some text else none
  | _ => none

/-- Whether a scalar says yes or no. -/
def flag? (root node : Node) : Option Bool :=
  (typedText? "bool" root node).bind fun text =>
    if ["true", "True", "TRUE"].contains (String.ofList text) then some true
    else if ["false", "False", "FALSE"].contains (String.ofList text) then some false
    else none

/-- The value of digits to a base. -/
def valueOfDigits? (base : Nat) (digits : List Char) : Option Nat :=
  if digits.isEmpty then none
  else digits.foldlM (fun n d =>
    (Json.hexValue? (some d)).bind fun v => if v < base then some (base * n + v) else none) 0

/-- The value of an unsigned number.  It may have a plus sign and one of the
    bases 16, 8 and 2; a decimal number has no leading zeros. -/
def naturalOfText? (text : List Char) : Option Nat :=
  let digits := match text with
    | '+' :: rest => rest
    | _ => text
  match digits with
  | '0' :: 'x' :: rest => valueOfDigits? 16 rest
  | '0' :: 'o' :: rest => valueOfDigits? 8 rest
  | '0' :: 'b' :: rest => valueOfDigits? 2 rest
  | ['0'] => some 0
  | '0' :: _ => none
  | _ => valueOfDigits? 10 digits

/-- The value of a scalar that is an unsigned number of 64 bits. -/
def natural? (root node : Node) : Option Nat := do
  let n ← naturalOfText? (← typedText? "int" root node)
  if n < Nat.pow 2 64 then some n else none

/-- The texts that say that nothing is there. -/
def isNull (text : List Char) : Bool :=
  ["null", "Null", "NULL", "~"].contains (String.ofList text)

/-- The text of a scalar that may also say that there is none. -/
def optionalText? (root node : Node) : Option (Option String) :=
  match target? root node with
  | some (scalar _ tag .plain text) =>
    if tag = some "tag:yaml.org,2002:null".toList then
      if isNull text then some none else none
    else if tag.isNone && (text.isEmpty || isNull text) then some none
    else some (some (String.ofList text))
  | some (scalar _ _ _ text) => some (some (String.ofList text))
  | _ => none

/-! ## Collections -/

/-- The items of a sequence; where nothing is written there are none. -/
def items? (root node : Node) : Option (List Node) :=
  match target? root node with
  | some (sequence _ items) => some items
  | some (scalar _ _ .plain []) => some []
  | _ => none

/-- The pairs of a mapping whose keys are scalars; where nothing is written
    there are none. -/
def members? (root node : Node) : Option (List (String × Node)) :=
  match target? root node with
  | some (mapping _ pairs) => pairs.mapM fun (k, v) => (text? root k).map fun name => (name, v)
  | some (scalar _ _ .plain []) => some []
  | _ => none

/-- The items of a sequence, each read in the same way. -/
def list? {α : Type} (item : Node → Option α) (root node : Node) : Option (List α) :=
  (items? root node).bind fun items => items.mapM item

/-- The value of a field of a record, which has a default; the field may be
    there only once. -/
def fieldOr? {α : Type} (name : String) (standard : α) (read : Node → Option α)
    (members : List (String × Node)) : Option α :=
  match members.filter (·.1 = name) with
  | [] => some standard
  | [member] => read member.2
  | _ => none

end SnippetScope.Yaml.Node
