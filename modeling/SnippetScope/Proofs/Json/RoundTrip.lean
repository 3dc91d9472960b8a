/-
  SnippetScope.Proofs.Json.RoundTrip

  Values read back as they were written, in any layout that puts nothing but
  blanks between the parts.  They are written as the grammar spells them
  (`spells_write`), and so the reader finds them (`read?_write`).
-/
import SnippetScope.Proofs.Json.Grammar
import SnippetScope.Proofs.Json.Scalars

namespace SnippetScope.Json

/-! ## Written values -/

mutual

/-- A value as the reader finds it. -/
def asWritten : Json → Written
  | null => .null
  | bool value => .bool value
  | number value => .number (writeNumber value)
  | string value => .string (between value.toList)
  | array items => .array (allAsWritten items)
  | object members => .object (membersAsWritten members)

/-- Items as the reader finds them. -/
def allAsWritten : List Json → List Written
  | [] => []
  | item :: rest => asWritten item :: allAsWritten rest

/-- Members as the reader finds them. -/
def membersAsWritten : List (String × Json) → List (List Symbol × Written)
  | [] => []
  | (key, value) :: rest => (between key.toList, asWritten value) :: membersAsWritten rest

end

/-! ## Layouts -/

/-- The layout puts nothing but blanks between the parts of a value. -/
structure Layout.Blank (layout : Layout) : Prop where
  lineStart : ∀ level, AreGaps ((layout.lineStart level).map some)
  afterColon : AreGaps (layout.afterColon.map some)

theorem areGaps_nil : AreGaps [] := List.forall_mem_nil _

theorem areGaps_map {text : List Char} (h : ∀ c ∈ text, isGap (some c) = true) :
    AreGaps (text.map some) := by
  rintro s hs
  obtain ⟨c, hc, rfl⟩ := List.mem_map.mp hs
  exact h c hc

theorem blank_flat : Layout.flat.Blank where
  lineStart _ := areGaps_nil
  afterColon := areGaps_nil

theorem blank_indented : Layout.indented.Blank where
  lineStart level := by
    refine areGaps_map fun c hc => ?_
    rcases List.mem_cons.mp hc with rfl | hspace
    · rfl
    · rw [List.eq_of_mem_replicate hspace]
      rfl
  afterColon := by
    refine areGaps_map fun c hc => ?_
    rw [List.mem_singleton.mp hc]
    rfl

variable {layout : Layout}

/-! ## Whole values -/

/-- A key as it is written, right in front of its colon. -/
theorem spellsKey_write {before : List Symbol} (hbefore : AreGaps before) (key : String) :
    SpellsKey (before ++ some '"' :: (between key.toList ++ [some '"'])) (between key.toList) :=
  .key hbefore (isInner_between key.toList) areGaps_nil

mutual

/-- A value is written as the grammar spells it. -/
theorem spells_write (hlayout : layout.Blank) (value : Json) (level : Nat) :
    Spells ((write layout level value).map some) (asWritten value) := by
  cases value with
  | null =>
      rw [write]
      exact .atom .null
  | bool value =>
      cases value with
      | false =>
          rw [write]
          exact .atom .isFalse
      | true =>
          rw [write]
          exact .atom .isTrue
  | number value =>
      rw [write]
      exact .atom (.number (isNumber_writeNumber value))
  | string value =>
      have hspells := Spells.string (isInner_between value.toList)
      rw [asWritten]
      simpa [write, writeString, between] using hspells
  | array items =>
      cases items with
      | nil =>
          rw [write]
          exact .noItems areGaps_nil
      | cons item items =>
          have hitems := spells_writeItems hlayout items (level + 1)
            (hlayout.lineStart (level + 1)) (spells_write hlayout item (level + 1))
            (hlayout.lineStart level)
          rw [asWritten, allAsWritten]
          simpa [write] using Spells.array hitems
  | object members =>
      cases members with
      | nil =>
          rw [write]
          exact .noMembers areGaps_nil
      | cons member members =>
          obtain ⟨key, value⟩ := member
          have hmembers := spells_writeMembers hlayout members (level + 1)
            (spellsKey_write (hlayout.lineStart (level + 1)) key)
            (spells_write hlayout value (level + 1)) (hlayout.lineStart level)
          rw [asWritten, membersAsWritten]
          simpa [write, writeString, between] using Spells.object hmembers

/-- Behind an item come the others, up to the blanks in front of the bracket. -/
theorem spells_writeItems (hlayout : layout.Blank) (items : List Json) (level : Nat)
    {before text after : List Symbol} {first : Written} (hbefore : AreGaps before)
    (hfirst : Spells text first) (hafter : AreGaps after) :
    SpellsItems (before ++ (text ++ ((writeItems layout level items).map some ++ after)))
      (first :: allAsWritten items) := by
  cases items with
  | nil =>
      rw [writeItems, allAsWritten]
      exact .last (.padded hbefore hfirst hafter)
  | cons item items =>
      have hitems := spells_writeItems hlayout items level (hlayout.lineStart level)
        (spells_write hlayout item level) hafter
      -- The comma follows at once; the blanks stand in front of the next item.
      have hpadded := SpellsPadded.padded hbefore hfirst areGaps_nil
      rw [allAsWritten]
      simpa [writeItems] using SpellsItems.more hpadded hitems

/-- Behind a member come the others, up to the blanks in front of the brace. -/
theorem spells_writeMembers (hlayout : layout.Blank) (members : List (String × Json))
    (level : Nat) {name key text after : List Symbol} {first : Written}
    (hname : SpellsKey name key) (hfirst : Spells text first) (hafter : AreGaps after) :
    SpellsMembers (name ++ some ':' :: (layout.afterColon.map some
        ++ (text ++ ((writeMembers layout level members).map some ++ after))))
      ((key, first) :: membersAsWritten members) := by
  cases members with
  | nil =>
      rw [writeMembers, membersAsWritten]
      exact .last hname (.padded hlayout.afterColon hfirst hafter)
  | cons member members =>
      obtain ⟨nextKey, value⟩ := member
      have hmembers := spells_writeMembers hlayout members level
        (spellsKey_write (hlayout.lineStart level) nextKey) (spells_write hlayout value level)
        hafter
      have hpadded := SpellsPadded.padded hlayout.afterColon hfirst areGaps_nil
      rw [membersAsWritten]
      simpa [writeMembers, writeString, between] using SpellsMembers.more hname hpadded hmembers

end

/-! ## Documents -/

/-- A value with blanks behind it is one whole document. -/
theorem read?_write (hlayout : layout.Blank) (value : Json) (gap : List Char)
    (hgap : AreGaps (gap.map some)) :
    read? ((write layout 0 value ++ gap).map some) = some (asWritten value) := by
  have hpadded := SpellsPadded.padded areGaps_nil (spells_write hlayout value 0) hgap
  rw [List.nil_append, ← List.map_append] at hpadded
  exact read?_eq_some_iff.mpr hpadded

/-- A value over several lines, with a line feed behind it, is one whole
    document. -/
theorem readText?_pretty (value : Json) :
    readText? (value.pretty ++ "\n") = some (asWritten value) := by
  have hfeed : AreGaps (['\n'].map some) := areGaps_map (List.forall_mem_singleton.mpr rfl)
  rw [readText?, String.toList_append, pretty, String.toList_ofList]
  exact read?_write blank_indented value ['\n'] hfeed

/-- A value on one line is one whole document. -/
theorem readText?_flat (value : Json) : readText? value.flat = some (asWritten value) := by
  have hread := read?_write blank_flat value [] areGaps_nil
  rw [List.append_nil] at hread
  rw [readText?, flat, String.toList_ofList, hread]

end SnippetScope.Json
