/-
  SnippetScope.Json.Record

  Records in JSON documents.  A record with given fields is written as an
  object with members of these names, or as an array of the fields' values in
  their order.
-/
import SnippetScope.Json.Syntax

namespace SnippetScope.Json.Written

/-- The value of the member with the name, if there is exactly one or none;
    the outer `none` tells of several. -/
def onlyMember? (name : String) (members : List (List Char × Written)) :
    Option (Option Written) :=
  match members.filter (·.1 = name.toList) with
  | [] => some none
  | [member] => some (some member.2)
  | _ => none

/-- The names of members, which all must denote a text. -/
def namedMembers? : List (List Symbol × Written) → Option (List (List Char × Written))
  | [] => some []
  | (key, value) :: rest => do
    let name ← textOf? key
    let named ← namedMembers? rest
    return (name, value) :: named

/-- The values of the fields of a record; members with other names are left
    out of account, an array may be shorter than the list of fields. -/
def fields? (names : List String) : Written → Option (List (Option Written))
  | object members => do
    let named ← namedMembers? members
    names.mapM fun name => onlyMember? name named
  | array items =>
    if items.length ≤ names.length then
      some (items.map some ++ List.replicate (names.length - items.length) none)
    else none
  | _ => none

/-- The text of a string. -/
def text? : Written → Option String
  | string inner => (textOf? inner).map String.ofList
  | _ => none

/-- The value of decimal digits. -/
def naturalOf? (digits : List Char) : Option Nat :=
  if !digits.isEmpty && digits.all Char.isDigit then
    some (digits.foldl (fun n c => 10 * n + (c.toNat - 48)) 0)
  else none

/-- The value of a number that is written with digits only. -/
def natural? : Written → Option Nat
  | number digits => naturalOf? digits
  | _ => none

/-- The items of an array, each read in the same way. -/
def list? {α : Type} (item : Written → Option α) : Written → Option (List α)
  | array items => items.mapM item
  | _ => none

/-- A field that must be there. -/
def required {α : Type} (read : Written → Option α) : Option Written → Option α
  | some value => read value
  | none => none

/-- A field that may be missing, in which case it has a given value. -/
def withDefault {α : Type} (standard : α) (read : Written → Option α) : Option Written → Option α
  | some value => read value
  | none => some standard

/-- A value that may be `null`. -/
def nullable {α : Type} (read : Written → Option α) : Written → Option (Option α)
  | null => some none
  | value => (read value).map some

end SnippetScope.Json.Written
