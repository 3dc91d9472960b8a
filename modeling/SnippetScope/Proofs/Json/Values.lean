/-
  SnippetScope.Proofs.Json.Values

  The value that a document denotes, texts and numbers in full and every member
  of every object.  A written value denotes itself (`value?_asWritten`), so that
  nothing in its texts can add to its shape or take from it (`readValue?_flat`).
-/
import SnippetScope.Proofs.Json.RoundTrip

namespace SnippetScope.Json

mutual

/-- The value that a document denotes, if its strings denote texts and its
    numbers are natural. -/
def Written.value? : Written → Option Json
  | .null => some .null
  | .bool value => some (.bool value)
  | .number digits => (Written.naturalOf? digits).map .number
  | .string inner => (textOf? inner).map fun text => .string (String.ofList text)
  | .array items => (Written.values? items).map .array
  | .object members => (Written.memberValues? members).map .object

/-- The values of items, which all must have one. -/
def Written.values? : List Written → Option (List Json)
  | [] => some []
  | item :: rest => do
    let value ← item.value?
    let values ← Written.values? rest
    return value :: values

/-- The names and values of members, which all must have both. -/
def Written.memberValues? : List (List Symbol × Written) → Option (List (String × Json))
  | [] => some []
  | (key, item) :: rest => do
    let name ← textOf? key
    let value ← item.value?
    let members ← Written.memberValues? rest
    return (String.ofList name, value) :: members

end

mutual

/-- A written value denotes the value it was written for. -/
theorem value?_asWritten (value : Json) : (asWritten value).value? = some value := by
  cases value with
  | null => rfl
  | bool value => rfl
  | number n => rw [asWritten, Written.value?, naturalOf?_writeNumber, Option.map_some]
  | string text =>
      rw [asWritten, Written.value?, textOf?_between, Option.map_some, String.ofList_toList]
  | array items => rw [asWritten, Written.value?, values?_allAsWritten items, Option.map_some]
  | object members =>
      rw [asWritten, Written.value?, memberValues?_membersAsWritten members, Option.map_some]

theorem values?_allAsWritten (items : List Json) :
    Written.values? (allAsWritten items) = some items := by
  cases items with
  | nil => rfl
  | cons item rest =>
      rw [allAsWritten, Written.values?, value?_asWritten item, values?_allAsWritten rest]
      rfl

theorem memberValues?_membersAsWritten (members : List (String × Json)) :
    Written.memberValues? (membersAsWritten members) = some members := by
  cases members with
  | nil => rfl
  | cons member rest =>
      obtain ⟨key, value⟩ := member
      rw [membersAsWritten, Written.memberValues?, textOf?_between, value?_asWritten value,
        memberValues?_membersAsWritten rest]
      simp [String.ofList_toList]

end

/-- The value that a text denotes, if it is one whole document. -/
def readValue? (text : String) : Option Json :=
  (readText? text).bind Written.value?

/-- A value on one line denotes itself. -/
theorem readValue?_flat (value : Json) : readValue? value.flat = some value := by
  rw [readValue?, readText?_flat, Option.bind_some, value?_asWritten]

end SnippetScope.Json
