/-
  SnippetScope.Proofs.Json.Tokens

  Strings, numbers and words by themselves.  What a string may hold and how a
  number is built is said by rules; the reader cuts off exactly such a text,
  where it ends being settled by the quotation mark behind a string
  (`closeString_sound`, `closeString_append`) or by what can be no part of a
  number (`readNumber_sound`, `readNumber_append`).
-/
import SnippetScope.Json.Syntax
import Mathlib.Data.List.TakeWhile

namespace SnippetScope.Json

/-! ## Strings -/

/-- What may stand between the quotation marks of a string. -/
inductive IsInner : List Symbol → Prop where
  | nil : IsInner []
  /-- A byte that is no text. -/
  | foreign {rest : List Symbol} (hrest : IsInner rest) : IsInner (none :: rest)
  /-- A character that needs no escape. -/
  | plain {c : Char} (hquote : c ≠ '"') (hslash : c ≠ '\\') (hcontrol : 32 ≤ c.toNat)
      {rest : List Symbol} (hrest : IsInner rest) : IsInner (some c :: rest)
  /-- An escape of one letter. -/
  | short {e : Char} (he : (unescape? e).isSome) {rest : List Symbol} (hrest : IsInner rest) :
      IsInner (some '\\' :: some e :: rest)
  /-- An escape of four hexadecimal digits. -/
  | coded {a b c d : Symbol} (hdigits : (hexValue4? a b c d).isSome) {rest : List Symbol}
      (hrest : IsInner rest) : IsInner (some '\\' :: some 'u' :: a :: b :: c :: d :: rest)

/-- What the reader puts in front of the rest of a string. -/
theorem closeString_map (front : List Symbol) {rest inner after : List Symbol}
    (h : (closeString rest).map (fun (inner, after) => (front ++ inner, after))
      = some (inner, after)) :
    ∃ own, closeString rest = some (own, after) ∧ inner = front ++ own := by
  obtain ⟨⟨own, left⟩, hread, heq⟩ := Option.map_eq_some_iff.mp h
  cases heq
  exact ⟨own, hread, rfl⟩

/-- A string that is closed holds only what it may. -/
theorem closeString_sound {input inner after : List Symbol}
    (h : closeString input = some (inner, after)) :
    IsInner inner ∧ input = inner ++ some '"' :: after := by
  -- Each way to go on puts in front of the rest what one of the rules allows there.
  fun_induction closeString input generalizing inner after with
  | case1 | case4 | case6 | case7 | case8 => cases h
  | case2 rest =>
      cases h
      exact ⟨.nil, rfl⟩
  | case3 a b c d rest hdigits ih =>
      obtain ⟨own, hread, rfl⟩ :=
        closeString_map [some '\\', some 'u', a, b, c, d] h
      obtain ⟨hown, rfl⟩ := ih hread
      exact ⟨.coded hdigits hown, rfl⟩
  | case5 e rest hcoded he ih =>
      obtain ⟨own, hread, rfl⟩ := closeString_map [some '\\', some e] h
      obtain ⟨hown, rfl⟩ := ih hread
      exact ⟨.short he hown, rfl⟩
  | case9 c rest hquote hcoded hshort hslash hcontrol ih =>
      obtain ⟨own, hread, rfl⟩ := closeString_map [some c] h
      obtain ⟨hown, rfl⟩ := ih hread
      exact ⟨.plain hquote hslash (by omega) hown, rfl⟩
  | case10 rest ih =>
      obtain ⟨own, hread, rfl⟩ := closeString_map [none] h
      obtain ⟨hown, rfl⟩ := ih hread
      exact ⟨.foreign hown, rfl⟩

/-- A string is closed at the quotation mark behind it and not before. -/
theorem closeString_append {inner : List Symbol} (h : IsInner inner) (after : List Symbol) :
    closeString (inner ++ some '"' :: after) = some (inner, after) := by
  induction h with
  | nil => rfl
  | foreign hrest ih => simp [closeString, ih]
  | plain hquote hslash hcontrol hrest ih =>
      simp [closeString, hslash, Nat.not_lt.mpr hcontrol, ih]
  | @short e he rest hrest ih =>
      -- No letter escape is a `u`, which would ask for digits behind it.
      have hu : e ≠ 'u' := by
        rintro rfl
        revert he
        decide
      simp [closeString, he, hu, ih]
  | coded hdigits hrest ih => simp [closeString, hdigits, ih]

/-! ## Numbers -/

/-- One digit or more. -/
structure AreDigits (digits : List Char) : Prop where
  ne_nil : digits ≠ []
  isDigit : ∀ c ∈ digits, c.isDigit = true

/-- The whole part of a number, which starts with a zero only if it is one. -/
structure IsWhole (digits : List Char) : Prop extends AreDigits digits where
  zero : digits.head? = some '0' → digits = ['0']

/-- The decimal places of a number with the point in front, if there are any. -/
inductive IsPlaces : List Char → Prop where
  | none : IsPlaces []
  | point {digits : List Char} (hdigits : AreDigits digits) : IsPlaces ('.' :: digits)

/-- What may announce an exponent. -/
def exponentMarks : List (List Char) :=
  [['e', '+'], ['e', '-'], ['e'], ['E', '+'], ['E', '-'], ['E']]

/-- The exponent of a number with its letter and sign, if there is one. -/
inductive IsExponent : List Char → Prop where
  | none : IsExponent []
  | mark {mark digits : List Char} (hmark : mark ∈ exponentMarks) (hdigits : AreDigits digits) :
      IsExponent (mark ++ digits)

/-- A number without its sign. -/
inductive IsUnsigned : List Char → Prop where
  | parts {whole places exponent : List Char} (hwhole : IsWhole whole) (hplaces : IsPlaces places)
      (hexponent : IsExponent exponent) : IsUnsigned (whole ++ places ++ exponent)

/-- A number. -/
inductive IsNumber : List Char → Prop where
  | plain {digits : List Char} (h : IsUnsigned digits) : IsNumber digits
  | negative {digits : List Char} (h : IsUnsigned digits) : IsNumber ('-' :: digits)

/-- No digit stands in front. -/
def StartsNoDigit (rest : List Symbol) : Prop :=
  ∀ s ∈ rest.head?, isDigitSymbol s = false

/-- What follows is no part of a number in front of it. -/
def EndsNumber (rest : List Symbol) : Prop :=
  ∀ s ∈ rest.head?, isDigitSymbol s = false ∧ s ≠ some '.' ∧ s ≠ some 'e' ∧ s ≠ some 'E'

theorem EndsNumber.startsNoDigit {rest : List Symbol} (h : EndsNumber rest) :
    StartsNoDigit rest :=
  fun s hs => (h s hs).1

theorem takeDigits_cons {c : Char} (hc : c.isDigit = true) (input : List Symbol) :
    takeDigits (some c :: input) = (c :: (takeDigits input).1, (takeDigits input).2) := by
  simp [takeDigits, isDigitSymbol, hc]

theorem takeDigits_of_startsNoDigit {rest : List Symbol} (h : StartsNoDigit rest) :
    takeDigits rest = ([], rest) := by
  cases rest with
  | nil => rfl
  | cons s rest => simp [takeDigits, h s rfl]

theorem takeDigits_append {digits : List Char} (h : ∀ c ∈ digits, c.isDigit = true)
    {rest : List Symbol} (hrest : StartsNoDigit rest) :
    takeDigits (digits.map some ++ rest) = (digits, rest) := by
  induction digits with
  | nil => exact takeDigits_of_startsNoDigit hrest
  | cons c digits ih =>
      obtain ⟨hc, hdigits⟩ := List.forall_mem_cons.mp h
      rw [List.map_cons, List.cons_append, takeDigits_cons hc, ih hdigits]

theorem takeDigits_sound {input rest : List Symbol} {digits : List Char}
    (h : takeDigits input = (digits, rest)) :
    input = digits.map some ++ rest ∧ ∀ c ∈ digits, c.isDigit = true := by
  induction input generalizing digits with
  | nil =>
      cases h
      exact ⟨rfl, List.forall_mem_nil _⟩
  | cons s input ih =>
      by_cases hs : isDigitSymbol s = true
      · cases s with
        | none => cases hs
        | some c =>
            rw [takeDigits_cons hs] at h
            cases h
            have htake : takeDigits input = ((takeDigits input).1, (takeDigits input).2) := rfl
            obtain ⟨hinput, hdigits⟩ := ih htake
            refine ⟨?_, List.forall_mem_cons.mpr ⟨hs, hdigits⟩⟩
            rw [List.map_cons, List.cons_append, ← hinput]
      · rw [Bool.not_eq_true] at hs
        have hnone : StartsNoDigit (s :: input) := by
          rintro t ⟨⟩
          exact hs
        rw [takeDigits_of_startsNoDigit hnone] at h
        cases h
        exact ⟨rfl, List.forall_mem_nil _⟩

theorem readWhole_sound {input rest : List Symbol} {digits : List Char}
    (h : readWhole input = some (digits, rest)) :
    IsWhole digits ∧ input = digits.map some ++ rest := by
  rw [readWhole] at h
  split at h
  · cases h
  · cases h
  · rename_i hne hzero htake
    cases h
    obtain ⟨hinput, hdigits⟩ := takeDigits_sound htake
    refine ⟨⟨⟨?_, hdigits⟩, fun hhead => ?_⟩, hinput⟩
    · rintro rfl
      exact hne rfl
    · -- A zero with digits behind it has been refused.
      obtain ⟨others, hothers⟩ := List.head?_eq_some_iff.mp hhead
      cases others with
      | nil => exact hothers
      | cons c others =>
          rw [hothers] at hzero
          exact (hzero c others rfl).elim

theorem readWhole_append {whole : List Char} (h : IsWhole whole) {rest : List Symbol}
    (hrest : StartsNoDigit rest) : readWhole (whole.map some ++ rest) = some (whole, rest) := by
  rw [readWhole, takeDigits_append h.isDigit hrest]
  split
  · rename_i heq
    cases heq
    exact absurd rfl h.ne_nil
  · rename_i heq
    cases heq
    cases h.zero rfl
  · rename_i heq
    cases heq
    rfl

theorem readPlaces_sound {input rest : List Symbol} {places : List Char}
    (h : readPlaces input = some (places, rest)) :
    IsPlaces places ∧ input = places.map some ++ rest := by
  rw [readPlaces.eq_def] at h
  split at h
  · split at h
    · cases h
    · rename_i hne htake
      cases h
      obtain ⟨hinput, hdigits⟩ := takeDigits_sound htake
      refine ⟨.point ⟨?_, hdigits⟩, by rw [hinput]; rfl⟩
      rintro rfl
      exact hne rfl
  · cases h
    exact ⟨.none, rfl⟩

theorem readPlaces_append {places : List Char} (h : IsPlaces places) {rest : List Symbol}
    (hrest : StartsNoDigit rest) (hpoint : ∀ s ∈ rest.head?, s ≠ some '.') :
    readPlaces (places.map some ++ rest) = some (places, rest) := by
  cases h with
  | none =>
      rw [List.map_nil, List.nil_append, readPlaces.eq_def]
      split
      · exact absurd rfl (hpoint _ rfl)
      · rfl
  | point hdigits =>
      rw [List.map_cons, List.cons_append, readPlaces, takeDigits_append hdigits.isDigit hrest]
      split
      · rename_i heq
        cases heq
        exact absurd rfl hdigits.ne_nil
      · rename_i heq
        cases heq
        rfl

theorem readExponentDigits_sound (mark : List Char) {text : List Char} {input rest : List Symbol}
    (hmark : mark ∈ exponentMarks) (h : readExponentDigits mark input = some (text, rest)) :
    IsExponent text ∧ mark.map some ++ input = text.map some ++ rest := by
  rw [readExponentDigits] at h
  split at h
  · cases h
  · rename_i hne htake
    cases h
    obtain ⟨hinput, hdigits⟩ := takeDigits_sound htake
    refine ⟨.mark hmark ⟨?_, hdigits⟩, by rw [hinput]; simp⟩
    rintro rfl
    exact hne rfl

theorem readExponent_sound {input rest : List Symbol} {text : List Char}
    (h : readExponent input = some (text, rest)) :
    IsExponent text ∧ input = text.map some ++ rest := by
  rw [readExponent.eq_def] at h
  split at h
  · exact readExponentDigits_sound ['e', '+'] (by decide) h
  · exact readExponentDigits_sound ['e', '-'] (by decide) h
  · exact readExponentDigits_sound ['e'] (by decide) h
  · exact readExponentDigits_sound ['E', '+'] (by decide) h
  · exact readExponentDigits_sound ['E', '-'] (by decide) h
  · exact readExponentDigits_sound ['E'] (by decide) h
  · cases h
    exact ⟨.none, rfl⟩

theorem readExponentDigits_append (mark : List Char) {digits : List Char} (h : AreDigits digits)
    {rest : List Symbol} (hrest : StartsNoDigit rest) :
    readExponentDigits mark (digits.map some ++ rest) = some (mark ++ digits, rest) := by
  rw [readExponentDigits, takeDigits_append h.isDigit hrest]
  split
  · rename_i heq
    cases heq
    exact absurd rfl h.ne_nil
  · rename_i heq
    cases heq
    rfl

theorem readExponent_append {text : List Char} (h : IsExponent text) {rest : List Symbol}
    (hrest : EndsNumber rest) : readExponent (text.map some ++ rest) = some (text, rest) := by
  cases h with
  | none =>
      rw [List.map_nil, List.nil_append, readExponent.eq_def]
      split
      · exact absurd rfl (hrest _ rfl).2.2.1
      · exact absurd rfl (hrest _ rfl).2.2.1
      · exact absurd rfl (hrest _ rfl).2.2.1
      · exact absurd rfl (hrest _ rfl).2.2.2
      · exact absurd rfl (hrest _ rfl).2.2.2
      · exact absurd rfl (hrest _ rfl).2.2.2
      · rfl
  | @mark mark digits hmark hdigits =>
      have hread := readExponentDigits_append mark hdigits hrest.startsNoDigit
      -- A letter alone stands in front of a digit, which is no sign.
      obtain ⟨d, others, rfl⟩ := List.exists_cons_of_ne_nil hdigits.ne_nil
      have hd : d.isDigit = true := hdigits.isDigit d List.mem_cons_self
      have hplus : d ≠ '+' := by
        rintro rfl
        cases hd
      have hminus : d ≠ '-' := by
        rintro rfl
        cases hd
      rw [← hread]
      simp only [exponentMarks, List.mem_cons, List.not_mem_nil, or_false] at hmark
      rcases hmark with rfl | rfl | rfl | rfl | rfl | rfl <;> simp [readExponent, hplus, hminus]

theorem IsPlaces.startsNoDigit {places : List Char} (h : IsPlaces places) {rest : List Symbol}
    (hrest : StartsNoDigit rest) : StartsNoDigit (places.map some ++ rest) := by
  cases h with
  | none => exact hrest
  | point hdigits =>
      rintro s ⟨⟩
      rfl

theorem IsExponent.start {text : List Char} (h : IsExponent text) {rest : List Symbol}
    (hrest : EndsNumber rest) :
    StartsNoDigit (text.map some ++ rest) ∧ ∀ s ∈ (text.map some ++ rest).head?, s ≠ some '.' := by
  cases h with
  | none => exact ⟨hrest.startsNoDigit, fun s hs => (hrest s hs).2.1⟩
  | mark hmark hdigits =>
      simp only [exponentMarks, List.mem_cons, List.not_mem_nil, or_false] at hmark
      rcases hmark with rfl | rfl | rfl | rfl | rfl | rfl <;> simp [StartsNoDigit, isDigitSymbol]

theorem readUnsigned_sound {input rest : List Symbol} {digits : List Char}
    (h : readUnsigned input = some (digits, rest)) :
    IsUnsigned digits ∧ input = digits.map some ++ rest := by
  obtain ⟨⟨whole, afterWhole⟩, hwhole, h⟩ := Option.bind_eq_some_iff.mp h
  obtain ⟨⟨places, afterPlaces⟩, hplaces, h⟩ := Option.bind_eq_some_iff.mp h
  obtain ⟨⟨exponent, afterExponent⟩, hexponent, h⟩ := Option.bind_eq_some_iff.mp h
  cases h
  obtain ⟨hwhole', rfl⟩ := readWhole_sound hwhole
  obtain ⟨hplaces', rfl⟩ := readPlaces_sound hplaces
  obtain ⟨hexponent', rfl⟩ := readExponent_sound hexponent
  refine ⟨.parts hwhole' hplaces' hexponent', ?_⟩
  rw [List.map_append, List.map_append, List.append_assoc, List.append_assoc]

theorem readUnsigned_append {digits : List Char} (h : IsUnsigned digits) {rest : List Symbol}
    (hrest : EndsNumber rest) : readUnsigned (digits.map some ++ rest) = some (digits, rest) := by
  -- No part goes on with what the next one starts with.
  obtain ⟨hwhole, hplaces, hexponent⟩ := h
  obtain ⟨hdigit, hpoint⟩ := hexponent.start hrest
  rw [List.map_append, List.map_append, List.append_assoc, List.append_assoc, readUnsigned,
    readWhole_append hwhole (hplaces.startsNoDigit hdigit)]
  simp [readPlaces_append hplaces hdigit hpoint, readExponent_append hexponent hrest]

theorem readNumber_sound {input rest : List Symbol} {digits : List Char}
    (h : readNumber input = some (digits, rest)) :
    IsNumber digits ∧ input = digits.map some ++ rest := by
  rw [readNumber.eq_def] at h
  split at h
  · obtain ⟨⟨own, left⟩, hread, heq⟩ := Option.map_eq_some_iff.mp h
    cases heq
    obtain ⟨hown, rfl⟩ := readUnsigned_sound hread
    exact ⟨.negative hown, rfl⟩
  · obtain ⟨hown, hinput⟩ := readUnsigned_sound h
    exact ⟨.plain hown, hinput⟩

theorem IsUnsigned.exists_cons {digits : List Char} (h : IsUnsigned digits) :
    ∃ c cs, digits = c :: cs ∧ c.isDigit = true := by
  obtain ⟨hwhole, -, -⟩ := h
  obtain ⟨c, cs, rfl⟩ := List.exists_cons_of_ne_nil hwhole.ne_nil
  exact ⟨c, _, rfl, hwhole.isDigit c List.mem_cons_self⟩

theorem ne_of_isDigit {c mark : Char} (hc : c.isDigit = true) (hmark : mark.isDigit = false) :
    c ≠ mark := by
  rintro rfl
  rw [hc] at hmark
  cases hmark

/-- A number ends in front of what can be no part of it. -/
theorem readNumber_append {digits : List Char} (h : IsNumber digits) {rest : List Symbol}
    (hrest : EndsNumber rest) : readNumber (digits.map some ++ rest) = some (digits, rest) := by
  cases h with
  | plain h =>
      have hread := readUnsigned_append h hrest
      -- The number starts with a digit, so it is not taken for a negative one.
      obtain ⟨c, cs, rfl, hc⟩ := h.exists_cons
      rw [readNumber.eq_def]
      split
      · rename_i heq
        cases heq
        cases hc
      · exact hread
  | negative h =>
      rw [List.map_cons, List.cons_append, readNumber, readUnsigned_append h hrest]
      rfl

/-! ## Words and numbers -/

theorem dropWord?_eq_some_iff {word : List Char} {input rest : List Symbol} :
    dropWord? word input = some rest ↔ input = word.map some ++ rest := by
  induction word generalizing input with
  | nil =>
      rw [dropWord?, Option.some_inj]
      rfl
  | cons c word ih =>
      cases input with
      | nil => simp [dropWord?]
      | cons s input =>
          cases s with
          | none => simp [dropWord?]
          | some d =>
              by_cases hc : c = d
              · subst hc
                simp [dropWord?, ih]
              · simp [dropWord?, hc, Ne.symm hc]

/-- A value without parts that is no string. -/
inductive IsAtom : List Char → Written → Prop where
  | null : IsAtom "null".toList .null
  | isTrue : IsAtom "true".toList (.bool true)
  | isFalse : IsAtom "false".toList (.bool false)
  | number {digits : List Char} (h : IsNumber digits) : IsAtom digits (.number digits)

theorem readAtom_sound {input rest : List Symbol} {value : Written}
    (h : readAtom input = some (value, rest)) :
    ∃ text, IsAtom text value ∧ input = text.map some ++ rest := by
  rw [readAtom.eq_def] at h
  split at h
  · obtain ⟨left, hdrop, heq⟩ := Option.map_eq_some_iff.mp h
    cases heq
    exact ⟨_, .null, dropWord?_eq_some_iff.mp hdrop⟩
  · obtain ⟨left, hdrop, heq⟩ := Option.map_eq_some_iff.mp h
    cases heq
    exact ⟨_, .isTrue, dropWord?_eq_some_iff.mp hdrop⟩
  · obtain ⟨left, hdrop, heq⟩ := Option.map_eq_some_iff.mp h
    cases heq
    exact ⟨_, .isFalse, dropWord?_eq_some_iff.mp hdrop⟩
  · obtain ⟨⟨digits, left⟩, hread, heq⟩ := Option.map_eq_some_iff.mp h
    cases heq
    obtain ⟨hnumber, hinput⟩ := readNumber_sound hread
    exact ⟨digits, .number hnumber, hinput⟩

theorem IsNumber.exists_cons {digits : List Char} (h : IsNumber digits) :
    ∃ c cs, digits = c :: cs ∧ (c.isDigit = true ∨ c = '-') := by
  cases h with
  | plain h =>
      obtain ⟨c, cs, heq, hc⟩ := h.exists_cons
      exact ⟨c, cs, heq, .inl hc⟩
  | negative h => exact ⟨_, _, rfl, .inr rfl⟩

theorem readAtom_append {text : List Char} {value : Written} (h : IsAtom text value)
    {rest : List Symbol} (hrest : EndsNumber rest) :
    readAtom (text.map some ++ rest) = some (value, rest) := by
  cases h with
  | null | isTrue | isFalse => simp [readAtom, dropWord?]
  | number h =>
      have hread := readNumber_append h hrest
      obtain ⟨c, cs, rfl, hc⟩ := h.exists_cons
      -- What a number starts with is the first letter of no word.
      have hletter : c ≠ 'n' ∧ c ≠ 't' ∧ c ≠ 'f' := by
        rcases hc with hc | rfl
        · exact ⟨ne_of_isDigit hc rfl, ne_of_isDigit hc rfl, ne_of_isDigit hc rfl⟩
        · decide
      rw [List.map_cons, List.cons_append] at hread ⊢
      simp [readAtom, hread, hletter]

/-- An atom starts with none of the marks that announce other values, or end one. -/
theorem IsAtom.exists_cons {text : List Char} {value : Written} (h : IsAtom text value) :
    ∃ c cs, text = c :: cs ∧ isGap (some c) = false
      ∧ c ≠ '"' ∧ c ≠ '[' ∧ c ≠ ']' ∧ c ≠ '\x7b' := by
  cases h with
  | null | isTrue | isFalse => exact ⟨_, _, rfl, by decide⟩
  | number h =>
      obtain ⟨c, cs, heq, hc⟩ := h.exists_cons
      refine ⟨c, cs, heq, ?_⟩
      rcases hc with hc | rfl
      · have hne : ∀ mark : Char, mark.isDigit = false → c ≠ mark := fun mark => ne_of_isDigit hc
        simp [isGap, hne]
      · decide

end SnippetScope.Json
