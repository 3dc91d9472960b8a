/-
  SnippetScope.Proofs.Json.Grammar

  What a JSON document is.  Rules say which texts spell a value, with blanks
  wherever two parts meet; the reader accepts exactly these texts and finds the
  value they spell (`read?_eq_some_iff`).
-/
import SnippetScope.Proofs.Json.Tokens

namespace SnippetScope.Json

/-! ## Rules -/

/-- Nothing but blanks. -/
def AreGaps (gap : List Symbol) : Prop := ∀ s ∈ gap, isGap s = true

/-- The key of a member, with blanks around it. -/
inductive SpellsKey : List Symbol → List Symbol → Prop where
  | key {before inner after : List Symbol} (hbefore : AreGaps before) (h : IsInner inner)
      (hafter : AreGaps after) :
      SpellsKey (before ++ some '"' :: (inner ++ some '"' :: after)) inner

mutual

/-- The text spells the value, with nothing around it. -/
inductive Spells : List Symbol → Written → Prop where
  | atom {text : List Char} {value : Written} (h : IsAtom text value) :
      Spells (text.map some) value
  | string {inner : List Symbol} (h : IsInner inner) :
      Spells (some '"' :: (inner ++ [some '"'])) (.string inner)
  | noItems {gap : List Symbol} (hgap : AreGaps gap) :
      Spells (some '[' :: (gap ++ [some ']'])) (.array [])
  | array {text : List Symbol} {items : List Written} (h : SpellsItems text items) :
      Spells (some '[' :: (text ++ [some ']'])) (.array items)
  | noMembers {gap : List Symbol} (hgap : AreGaps gap) :
      Spells (some '\x7b' :: (gap ++ [some '\x7d'])) (.object [])
  | object {text : List Symbol} {members : List (List Symbol × Written)}
      (h : SpellsMembers text members) :
      Spells (some '\x7b' :: (text ++ [some '\x7d'])) (.object members)

/-- The text spells the value, with blanks around it. -/
inductive SpellsPadded : List Symbol → Written → Prop where
  | padded {before text after : List Symbol} {value : Written} (hbefore : AreGaps before)
      (h : Spells text value) (hafter : AreGaps after) :
      SpellsPadded (before ++ (text ++ after)) value

/-- The text spells the items of an array, with a comma between neighbours. -/
inductive SpellsItems : List Symbol → List Written → Prop where
  | last {text : List Symbol} {item : Written} (h : SpellsPadded text item) :
      SpellsItems text [item]
  | more {text others : List Symbol} {item : Written} {items : List Written}
      (h : SpellsPadded text item) (hitems : SpellsItems others items) :
      SpellsItems (text ++ some ',' :: others) (item :: items)

/-- The text spells the members of an object, with a comma between neighbours
    and a colon behind each key. -/
inductive SpellsMembers : List Symbol → List (List Symbol × Written) → Prop where
  | last {name key text : List Symbol} {value : Written} (hkey : SpellsKey name key)
      (h : SpellsPadded text value) :
      SpellsMembers (name ++ some ':' :: text) [(key, value)]
  | more {name key text others : List Symbol} {value : Written}
      {members : List (List Symbol × Written)} (hkey : SpellsKey name key)
      (h : SpellsPadded text value) (hmembers : SpellsMembers others members) :
      SpellsMembers (name ++ some ':' :: (text ++ some ',' :: others)) ((key, value) :: members)

end

/-! ## Blanks -/

variable {gap rest input : List Symbol}

theorem skipGap_append (hgap : AreGaps gap) (rest : List Symbol) :
    skipGap (gap ++ rest) = skipGap rest :=
  List.dropWhile_append_of_pos hgap

theorem skipGap_cons {s : Symbol} (hs : isGap s = false) (rest : List Symbol) :
    skipGap (s :: rest) = s :: rest :=
  List.dropWhile_cons_of_neg (by simp [hs])

theorem skipGap_append_cons {s : Symbol} (hgap : AreGaps gap) (hs : isGap s = false)
    (rest : List Symbol) : skipGap (gap ++ s :: rest) = s :: rest := by
  rw [skipGap_append hgap, skipGap_cons hs]

theorem exists_gap (input : List Symbol) : ∃ gap, AreGaps gap ∧ input = gap ++ skipGap input :=
  ⟨input.takeWhile isGap, fun _ hs => List.mem_takeWhile_imp hs,
    (List.takeWhile_append_dropWhile).symm⟩

theorem endsNumber_cons {c : Char} (hc : c.isDigit = false ∧ c ≠ '.' ∧ c ≠ 'e' ∧ c ≠ 'E')
    (rest : List Symbol) : EndsNumber (some c :: rest) := by
  rintro s ⟨⟩
  simpa [isDigitSymbol] using hc

theorem endsNumber_append (hgap : AreGaps gap) (hrest : EndsNumber rest) :
    EndsNumber (gap ++ rest) := by
  cases gap with
  | nil => exact hrest
  | cons s gap =>
      have hs : isGap s = true := hgap s List.mem_cons_self
      cases s with
      | none => cases hs
      | some c =>
          simp only [isGap, Bool.or_eq_true, beq_iff_eq] at hs
          rcases hs with ((rfl | rfl) | rfl) | rfl <;> exact endsNumber_cons (by decide) _

/-! ## What is read is spelled -/

theorem readKey_sound {input inside key left : List Symbol}
    (hskip : skipGap input = some '"' :: inside) (h : closeString inside = some (key, left)) :
    ∃ name, SpellsKey name key ∧ input = name ++ skipGap left := by
  obtain ⟨before, hbefore, hinput⟩ := exists_gap input
  obtain ⟨after, hafter, hleft⟩ := exists_gap left
  obtain ⟨hinner, hinside⟩ := closeString_sound h
  refine ⟨_, .key hbefore hinner hafter, ?_⟩
  rw [hskip, hinside, hleft] at hinput
  simpa using hinput

-- Each reader calls the others with less fuel, so the fuel is what the induction is on.
mutual

/-- What is read in front of the rest is blanks and a text that spells the value. -/
theorem readValue_sound (fuel : Nat) {input rest : List Symbol} {value : Written}
    (h : readValue fuel input = some (value, rest)) :
    ∃ before text, AreGaps before ∧ Spells text value ∧ input = before ++ (text ++ rest) := by
  cases fuel with
  | zero =>
      rw [readValue] at h
      cases h
  | succ fuel =>
      obtain ⟨before, hbefore, hinput⟩ := exists_gap input
      suffices hspells : ∃ text, Spells text value ∧ skipGap input = text ++ rest by
        obtain ⟨text, htext, hskip⟩ := hspells
        exact ⟨before, text, hbefore, htext, by rw [← hskip, ← hinput]⟩
      -- The first character behind the blanks tells what kind of value it is.
      rw [readValue] at h
      split at h
      · rename_i inside hskip
        obtain ⟨⟨inner, left⟩, hread, heq⟩ := Option.map_eq_some_iff.mp h
        cases heq
        obtain ⟨hinner, rfl⟩ := closeString_sound hread
        exact ⟨_, .string hinner, by rw [hskip]; simp⟩
      · rename_i inside hskip
        obtain ⟨gap, hgap, hinside⟩ := exists_gap inside
        split at h
        · rename_i left hbracket
          cases h
          exact ⟨_, .noItems hgap, by rw [hskip, hinside, hbracket]; simp⟩
        · obtain ⟨⟨items, left⟩, hread, heq⟩ := Option.map_eq_some_iff.mp h
          cases heq
          obtain ⟨text, hitems, rfl⟩ := readItems_sound fuel hread
          exact ⟨_, .array hitems, by rw [hskip]; simp⟩
      · rename_i inside hskip
        obtain ⟨gap, hgap, hinside⟩ := exists_gap inside
        split at h
        · rename_i left hbrace
          cases h
          exact ⟨_, .noMembers hgap, by rw [hskip, hinside, hbrace]; simp⟩
        · obtain ⟨⟨members, left⟩, hread, heq⟩ := Option.map_eq_some_iff.mp h
          cases heq
          obtain ⟨text, hmembers, rfl⟩ := readMembers_sound fuel hread
          exact ⟨_, .object hmembers, by rw [hskip]; simp⟩
      · obtain ⟨text, hatom, hskip⟩ := readAtom_sound h
        exact ⟨_, .atom hatom, hskip⟩

/-- The blanks behind a value belong to it as well. -/
theorem readPadded_sound (fuel : Nat) {input rest : List Symbol} {value : Written}
    (h : readValue fuel input = some (value, rest)) :
    ∃ text, SpellsPadded text value ∧ input = text ++ skipGap rest := by
  obtain ⟨before, text, hbefore, htext, hinput⟩ := readValue_sound fuel h
  obtain ⟨after, hafter, hrest⟩ := exists_gap rest
  refine ⟨_, .padded hbefore htext hafter, ?_⟩
  rw [hrest] at hinput
  simpa using hinput

theorem readItems_sound (fuel : Nat) {input rest : List Symbol} {items : List Written}
    (h : readItems fuel input = some (items, rest)) :
    ∃ text, SpellsItems text items ∧ input = text ++ some ']' :: rest := by
  cases fuel with
  | zero =>
      rw [readItems] at h
      cases h
  | succ fuel =>
      rw [readItems] at h
      split at h
      · cases h
      · rename_i item left hitem
        obtain ⟨text, htext, rfl⟩ := readPadded_sound fuel hitem
        split at h
        · rename_i others hcomma
          obtain ⟨⟨own, behind⟩, hread, heq⟩ := Option.map_eq_some_iff.mp h
          cases heq
          obtain ⟨otherText, hothers, rfl⟩ := readItems_sound fuel hread
          exact ⟨_, .more htext hothers, by rw [hcomma]; simp⟩
        · rename_i others hbracket
          cases h
          exact ⟨_, .last htext, by rw [hbracket]⟩
        · cases h

theorem readMembers_sound (fuel : Nat) {input rest : List Symbol}
    {members : List (List Symbol × Written)}
    (h : readMembers fuel input = some (members, rest)) :
    ∃ text, SpellsMembers text members ∧ input = text ++ some '\x7d' :: rest := by
  cases fuel with
  | zero =>
      rw [readMembers] at h
      cases h
  | succ fuel =>
      rw [readMembers] at h
      split at h
      · rename_i inside hskip
        split at h
        · cases h
        · rename_i key left hkey
          obtain ⟨name, hname, rfl⟩ := readKey_sound hskip hkey
          split at h
          · rename_i valueInput hcolon
            split at h
            · cases h
            · rename_i value valueLeft hvalue
              obtain ⟨text, htext, rfl⟩ := readPadded_sound fuel hvalue
              split at h
              · rename_i others hcomma
                obtain ⟨⟨own, behind⟩, hread, heq⟩ := Option.map_eq_some_iff.mp h
                cases heq
                obtain ⟨otherText, hothers, rfl⟩ := readMembers_sound fuel hread
                exact ⟨_, .more hname htext hothers, by rw [hcolon, hcomma]; simp⟩
              · rename_i others hbrace
                cases h
                exact ⟨_, .last hname htext, by rw [hcolon, hbrace]; simp⟩
              · cases h
          · cases h
      · cases h

end

/-! ## What is spelled is read -/

/-- No value starts with a blank or the end of an array. -/
theorem Spells.exists_cons {text : List Symbol} {value : Written} (h : Spells text value) :
    ∃ s cs, text = s :: cs ∧ isGap s = false ∧ s ≠ some ']' := by
  cases h with
  | atom h =>
      obtain ⟨c, cs, rfl, hgap, -, -, hbracket, -⟩ := h.exists_cons
      exact ⟨some c, cs.map some, rfl, hgap, by simpa using hbracket⟩
  | string | noItems | array | noMembers | object => exact ⟨_, _, rfl, by decide, by decide⟩

theorem SpellsPadded.exists_skipGap {text : List Symbol} {value : Written}
    (h : SpellsPadded text value) (rest : List Symbol) :
    ∃ s cs, skipGap (text ++ rest) = s :: cs ∧ s ≠ some ']' := by
  obtain ⟨hbefore, h, hafter⟩ := h
  obtain ⟨s, cs, rfl, hs, hbracket⟩ := h.exists_cons
  rw [List.append_assoc, skipGap_append hbefore, List.cons_append, List.cons_append,
    skipGap_cons hs]
  exact ⟨s, _, rfl, hbracket⟩

theorem SpellsItems.exists_skipGap {text : List Symbol} {items : List Written}
    (h : SpellsItems text items) (rest : List Symbol) :
    ∃ s cs, skipGap (text ++ rest) = s :: cs ∧ s ≠ some ']' := by
  cases h with
  | last h => exact h.exists_skipGap rest
  | more h hitems =>
      rw [List.append_assoc]
      exact h.exists_skipGap _

/-- A key is read up to its colon. -/
theorem SpellsKey.exists_read {name key : List Symbol} (h : SpellsKey name key)
    (rest : List Symbol) :
    ∃ inside left, skipGap (name ++ some ':' :: rest) = some '"' :: inside
      ∧ closeString inside = some (key, left) ∧ skipGap left = some ':' :: rest := by
  obtain ⟨hbefore, h, hafter⟩ := h
  refine ⟨_, _, ?_, closeString_append h _, skipGap_append_cons hafter (by decide) rest⟩
  rw [List.append_assoc, skipGap_append hbefore, List.cons_append, skipGap_cons (by decide),
    List.append_assoc]
  rfl

theorem SpellsMembers.exists_skipGap {text : List Symbol}
    {members : List (List Symbol × Written)} (h : SpellsMembers text members)
    (rest : List Symbol) : ∃ inside, skipGap (text ++ rest) = some '"' :: inside := by
  cases h with
  | last hkey h | more hkey h hmembers =>
      rw [List.append_assoc]
      obtain ⟨inside, left, hskip, -⟩ := hkey.exists_read (_ ++ rest)
      exact ⟨inside, hskip⟩

/-- What may stand behind a part of a value. -/
inductive IsEnd : Symbol → Prop where
  | comma : IsEnd (some ',')
  | bracket : IsEnd (some ']')
  | brace : IsEnd (some '\x7d')

theorem IsEnd.not_gap {s : Symbol} (h : IsEnd s) : isGap s = false := by
  cases h <;> rfl

theorem IsEnd.endsNumber {s : Symbol} (h : IsEnd s) (rest : List Symbol) :
    EndsNumber (s :: rest) := by
  cases h <;> exact endsNumber_cons (by decide) rest

-- A part is shorter than the whole by its brackets or its comma at least, so fuel for every
-- symbol is enough.
mutual

/-- A value is read up to its end, and nothing of what follows it. -/
theorem readValue_append (fuel : Nat) {text : List Symbol} {value : Written}
    (h : Spells text value) (hfuel : text.length ≤ fuel) {gap : List Symbol} (hgap : AreGaps gap)
    {rest : List Symbol} (hrest : EndsNumber rest) :
    readValue fuel (gap ++ (text ++ rest)) = some (value, rest) := by
  obtain ⟨s, cs, htext, hs, -⟩ := h.exists_cons
  cases fuel with
  | zero => simp [htext] at hfuel
  | succ fuel =>
      have hskip : skipGap (gap ++ (text ++ rest)) = text ++ rest := by
        rw [skipGap_append hgap, htext, List.cons_append, skipGap_cons hs]
      rw [readValue, hskip]
      cases h with
      | atom h =>
          -- It starts with no mark of the other kinds.
          have hread := readAtom_append h hrest
          obtain ⟨c, cs, rfl, -, hquote, hbracket, -, hbrace⟩ := h.exists_cons
          rw [List.map_cons, List.cons_append] at hread ⊢
          split
          · rename_i heq
            cases heq
            exact absurd rfl hquote
          · rename_i heq
            cases heq
            exact absurd rfl hbracket
          · rename_i heq
            cases heq
            exact absurd rfl hbrace
          · exact hread
      | string h =>
          have hread := closeString_append h rest
          simp [hread]
      | noItems hinside =>
          have hbracket := skipGap_append_cons hinside (by decide : isGap (some ']') = false) rest
          simp [hbracket]
      | @array inside items h =>
          have hinside : inside.length < fuel := by
            simp only [List.length_cons, List.length_append] at hfuel
            omega
          have hread := readItems_append fuel h hinside rest
          obtain ⟨t, ts, hfirst, hbracket⟩ := h.exists_skipGap (some ']' :: rest)
          simp [hfirst, hread, hbracket]
      | noMembers hinside =>
          have hbrace := skipGap_append_cons hinside (by decide : isGap (some '\x7d') = false) rest
          simp [hbrace]
      | @object inside members h =>
          have hinside : inside.length < fuel := by
            simp only [List.length_cons, List.length_append] at hfuel
            omega
          have hread := readMembers_append fuel h hinside rest
          obtain ⟨ts, hfirst⟩ := h.exists_skipGap (some '\x7d' :: rest)
          simp [hfirst, hread]

/-- Behind a padded value, its blanks are still to be read. -/
theorem readPadded_append (fuel : Nat) {text : List Symbol} {value : Written}
    (h : SpellsPadded text value) (hfuel : text.length ≤ fuel) {s : Symbol} (hs : IsEnd s)
    (rest : List Symbol) :
    ∃ left, readValue fuel (text ++ s :: rest) = some (value, left) ∧ skipGap left = s :: rest := by
  obtain ⟨hbefore, h, hafter⟩ := h
  refine ⟨_, ?_, skipGap_append_cons hafter hs.not_gap rest⟩
  rw [List.append_assoc, List.append_assoc]
  refine readValue_append fuel h ?_ hbefore (endsNumber_append hafter (hs.endsNumber rest))
  simp only [List.length_append] at hfuel
  omega

theorem readItems_append (fuel : Nat) {text : List Symbol} {items : List Written}
    (h : SpellsItems text items) (hfuel : text.length < fuel) (rest : List Symbol) :
    readItems fuel (text ++ some ']' :: rest) = some (items, rest) := by
  cases fuel with
  | zero => omega
  | succ fuel =>
      cases h with
      | last h =>
          obtain ⟨left, hread, hleft⟩ := readPadded_append fuel h (by omega) .bracket rest
          simp [readItems, hread, hleft]
      | @more text others item items h hitems =>
          simp only [List.length_append, List.length_cons] at hfuel
          obtain ⟨left, hread, hleft⟩ :=
            readPadded_append fuel h (by omega) .comma (others ++ some ']' :: rest)
          have hothers := readItems_append fuel hitems (by omega) rest
          simp [readItems, hread, hleft, hothers]

theorem readMembers_append (fuel : Nat) {text : List Symbol}
    {members : List (List Symbol × Written)} (h : SpellsMembers text members)
    (hfuel : text.length < fuel) (rest : List Symbol) :
    readMembers fuel (text ++ some '\x7d' :: rest) = some (members, rest) := by
  cases fuel with
  | zero => omega
  | succ fuel =>
      cases h with
      | @last name key text value hkey h =>
          simp only [List.length_append, List.length_cons] at hfuel
          obtain ⟨left, hread, hleft⟩ := readPadded_append fuel h (by omega) .brace rest
          obtain ⟨inside, behind, hskip, hclose, hcolon⟩ :=
            hkey.exists_read (text ++ some '\x7d' :: rest)
          simp [readMembers, hskip, hclose, hcolon, hread, hleft]
      | @more name key text others value members hkey h hmembers =>
          simp only [List.length_append, List.length_cons] at hfuel
          obtain ⟨left, hread, hleft⟩ :=
            readPadded_append fuel h (by omega) .comma (others ++ some '\x7d' :: rest)
          obtain ⟨inside, behind, hskip, hclose, hcolon⟩ :=
            hkey.exists_read (text ++ some ',' :: (others ++ some '\x7d' :: rest))
          have hothers := readMembers_append fuel hmembers (by omega) rest
          simp [readMembers, hskip, hclose, hcolon, hread, hleft, hothers]

end

/-! ## Documents -/

/-- The reader accepts the texts that spell one value with nothing but blanks
    around it. -/
theorem read?_eq_some_iff {input : List Symbol} {value : Written} :
    read? input = some value ↔ SpellsPadded input value := by
  constructor
  · intro h
    rw [read?] at h
    split at h
    · rename_i own rest hread
      split at h
      · rename_i hempty
        cases h
        obtain ⟨text, htext, hinput⟩ := readPadded_sound _ hread
        rw [List.isEmpty_iff.mp hempty, List.append_nil] at hinput
        rw [hinput]
        exact htext
      · cases h
    · cases h
  · rintro ⟨hbefore, h, hafter⟩
    rename_i before text after
    have hends : EndsNumber after := by
      have hnil : EndsNumber [] := by rintro s ⟨⟩
      simpa using endsNumber_append hafter hnil
    have hskip : skipGap after = [] := by
      simpa [skipGap] using skipGap_append hafter []
    have hlength : text.length ≤ (before ++ (text ++ after)).length + 1 := by
      rw [List.length_append, List.length_append]
      omega
    rw [read?, readValue_append _ h hlength hbefore hends]
    simp only [hskip]
    rfl

end SnippetScope.Json
