/-
  SnippetScope.Proofs.Text.Blank

  Blanks in texts.  A text is on one line if its only blanks are spaces; words
  and numbers have no blanks at all, and a squeezed text has no others than one
  space between any two words (`singlySpaced_squeeze`).  A trimmed text is a part of
  the text without blanks at its ends (`trim_infix`, `trimmed_trim`).
-/
import SnippetScope.Proofs.Text.Lines
import SnippetScope.Text.Blank
import SnippetScope.Unicode.Word
import Mathlib.Data.List.Basic
import Mathlib.Data.List.DropRight

namespace SnippetScope

namespace Unicode

theorem Ranges.has_iff {table : Ranges} {code : Nat} :
    table.has code = true ↔ ∃ r ∈ table, r.1 ≤ code ∧ code ≤ r.2 := by
  simp [Ranges.has]

/-- No range of blanks meets a range of word characters. -/
theorem blankTable_apart :
    (blankTable.all fun b => wordTable.all fun w => b.2.blt w.1 || w.2.blt b.1) = true := by
  decide +kernel

/-- No word character is blank. -/
theorem isBlank_eq_false_of_isWord {c : Char} (h : isWord c = true) : isBlank c = false := by
  rw [isWord] at h
  rw [isBlank]
  by_cases hascii : c.toNat < 128
  · -- Both tests read the code point alone, so there are 128 cases to look at.
    rw [if_pos hascii] at h ⊢
    have hchars : ∀ code < 128, isAsciiWord (Char.ofNat code) = true →
        ((9 ≤ code && code ≤ 13) || code == 32) = false := by
      decide +kernel
    refine hchars c.toNat hascii ?_
    rw [Char.ofNat_toNat]
    exact h
  · rw [if_neg hascii] at h ⊢
    by_contra hblank
    rw [Bool.not_eq_false] at hblank
    obtain ⟨b, hb, hfrom, hto⟩ := Ranges.has_iff.mp hblank
    obtain ⟨w, hw, hfrom', hto'⟩ := Ranges.has_iff.mp h
    have happart := List.all_eq_true.mp (List.all_eq_true.mp blankTable_apart b hb) w hw
    rw [Bool.or_eq_true, Nat.blt_eq, Nat.blt_eq] at happart
    omega

theorem isWord_eq_false_of_isBlank {c : Char} (h : isBlank c = true) : isWord c = false := by
  by_contra hword
  rw [Bool.not_eq_false] at hword
  rw [isBlank_eq_false_of_isWord hword] at h
  cases h

theorem isWord_of_isDigit {c : Char} (h : c.isDigit = true) : isWord c = true := by
  have hascii : c.toNat < 128 := by
    have hle : c.toNat ≤ '9'.toNat := (Char.isDigit_iff_toNat.mp h).2
    have hnine : '9'.toNat = 57 := rfl
    omega
  rw [isWord, if_pos hascii, isAsciiWord, Char.isAlphanum, h, Bool.or_true, Bool.true_or]

end Unicode

namespace Text

open Unicode (isBlank isWord)

/-- The only blanks are spaces, so that the text stays on one line. -/
def OnOneLine (text : List Char) : Prop :=
  ∀ c ∈ text, isBlank c = true → c = ' '

-- Given by name, so that only the characters of the text are looked at.
instance (text : List Char) : Decidable (OnOneLine text) :=
  List.decidableBAll (fun c => isBlank c = true → c = ' ') text

namespace OnOneLine

variable {a b : List Char}

theorem append (ha : OnOneLine a) (hb : OnOneLine b) : OnOneLine (a ++ b) :=
  List.forall_mem_append.mpr ⟨ha, hb⟩

/-- A text written out in full is compared character by character. -/
theorem ofList (h : OnOneLine a) : OnOneLine (String.ofList a).toList := by
  rw [String.toList_ofList]
  exact h

theorem of_forall_not_blank (h : ∀ c ∈ a, isBlank c = false) : OnOneLine a := by
  intro c hc hblank
  rw [h c hc] at hblank
  cases hblank

theorem not_mem (h : OnOneLine a) {c : Char} (hblank : isBlank c = true) (hc : c ≠ ' ') :
    c ∉ a :=
  fun hmem => hc (h c hmem hblank)

theorem intercalate {sep : List Char} (hsep : OnOneLine sep) {parts : List (List Char)}
    (hparts : ∀ part ∈ parts, OnOneLine part) : OnOneLine (List.intercalate sep parts) :=
  forall_mem_intercalate hsep hparts

end OnOneLine

/-- A number is written without blanks. -/
theorem onOneLine_toString (n : Nat) : OnOneLine (toString n).toList := by
  apply OnOneLine.of_forall_not_blank
  intro c hc
  rw [Nat.toString_eq_ofList_toDigits, String.toList_ofList] at hc
  have hdigit : c.isDigit = true := Nat.isDigit_of_mem_toDigits (by omega) (by omega) hc
  exact Unicode.isBlank_eq_false_of_isWord (Unicode.isWord_of_isDigit hdigit)

/-! ## Words -/

/-- The parts of a text between blanks have none. -/
theorem isBlank_eq_false_of_mem_cutAtBlanks {text part : List Char}
    (h : part ∈ cutAtBlanks text) : ∀ c ∈ part, isBlank c = false := by
  induction text generalizing part with
  | nil =>
      rw [cutAtBlanks, List.mem_singleton] at h
      simp [h]
  | cons c rest ih =>
      rw [cutAtBlanks] at h
      split at h
      · rcases List.mem_cons.mp h with rfl | h
        · simp
        · exact ih h
      · -- The character goes in front of the first part of the rest.
        rename_i hc
        rw [Bool.not_eq_true] at hc
        cases hrest : cutAtBlanks rest with
        | nil =>
            rw [hrest, consWord, List.mem_singleton] at h
            simpa [h] using hc
        | cons first others =>
            rw [hrest] at ih h
            rcases List.mem_cons.mp h with rfl | h
            · exact List.forall_mem_cons.mpr ⟨hc, ih List.mem_cons_self⟩
            · exact ih (List.mem_cons_of_mem _ h)

/-! ## Single spaces -/

/-- The only blanks are spaces, each of them between two other characters. -/
structure SinglySpaced (text : List Char) : Prop where
  onOneLine : OnOneLine text
  not_leading : text.head? ≠ some ' '
  not_trailing : text.getLast? ≠ some ' '
  not_double : ¬ [' ', ' '] <:+: text

namespace SinglySpaced

variable {word rest : List Char}

theorem nil : SinglySpaced [] :=
  ⟨by decide, by decide, by decide, by decide⟩

/-- A space between a word and what follows it is a single one. -/
theorem not_double_append (hword : ∀ c ∈ word, isBlank c = false) (h : SinglySpaced rest) :
    ¬ [' ', ' '] <:+: word ++ ' ' :: rest := by
  induction word with
  | nil =>
      rw [List.nil_append, List.infix_cons_iff, List.cons_prefix_cons]
      rintro (⟨-, hspace⟩ | hdouble)
      · obtain ⟨behind, rfl⟩ := hspace
        exact h.not_leading rfl
      · exact h.not_double hdouble
  | cons c word ih =>
      obtain ⟨hc, hword⟩ := List.forall_mem_cons.mp hword
      rw [List.cons_append, List.infix_cons_iff, List.cons_prefix_cons]
      rintro (⟨rfl, -⟩ | hdouble)
      · cases hc
      · exact ih hword hdouble

theorem of_word (hword : ∀ c ∈ word, isBlank c = false) : SinglySpaced word := by
  have hspace : ' ' ∉ word := by
    intro hmem
    have hblank := hword ' ' hmem
    cases hblank
  refine ⟨OnOneLine.of_forall_not_blank hword, ?_, ?_, ?_⟩
  · intro hhead
    exact hspace (List.mem_of_head? hhead)
  · intro hlast
    exact hspace (List.mem_of_getLast? hlast)
  · intro hdouble
    exact hspace (hdouble.subset List.mem_cons_self)

theorem append (hword : ∀ c ∈ word, isBlank c = false) (hne : word ≠ []) (h : SinglySpaced rest)
    (hrest : rest ≠ []) : SinglySpaced (word ++ ' ' :: rest) := by
  obtain ⟨c, tail, rfl⟩ := List.exists_cons_of_ne_nil hne
  refine ⟨?_, ?_, ?_, not_double_append hword h⟩
  · exact (OnOneLine.of_forall_not_blank hword).append
      (OnOneLine.append (a := [' ']) (by decide) h.onOneLine)
  · intro hhead
    obtain rfl := Option.some.inj hhead
    have hblank := hword ' ' List.mem_cons_self
    cases hblank
  · rw [List.getLast?_append_of_ne_nil _ (List.cons_ne_nil _ _), List.getLast?_cons,
      List.getLast?_eq_some_getLast hrest, Option.getD_some,
      ← List.getLast?_eq_some_getLast hrest]
    exact h.not_trailing

end SinglySpaced

theorem ne_nil_of_mem_words {text word : List Char} (h : word ∈ words text) : word ≠ [] := by
  have hne := (List.mem_filter.mp h).2
  simpa using hne

theorem isBlank_eq_false_of_mem_words {text word : List Char} (h : word ∈ words text) :
    ∀ c ∈ word, isBlank c = false :=
  isBlank_eq_false_of_mem_cutAtBlanks (List.mem_filter.mp h).1

/-- A squeezed text has single spaces only. -/
theorem singlySpaced_squeeze (text : List Char) : SinglySpaced (squeeze text) := by
  have hwords : ∀ word ∈ words text, word ≠ [] ∧ ∀ c ∈ word, isBlank c = false :=
    fun word hword => ⟨ne_nil_of_mem_words hword, isBlank_eq_false_of_mem_words hword⟩
  rw [squeeze]
  generalize words text = parts at hwords
  induction parts with
  | nil => exact .nil
  | cons word rest ih =>
      obtain ⟨⟨hne, hword⟩, hrest⟩ := List.forall_mem_cons.mp hwords
      cases rest with
      | nil =>
          rw [List.intercalate_singleton]
          exact .of_word hword
      | cons next rest =>
          rw [List.intercalate_cons_cons, List.append_assoc]
          refine .append hword hne (ih hrest) ?_
          obtain ⟨hnext, -⟩ := hrest next List.mem_cons_self
          cases rest with
          | nil => simpa [List.intercalate_singleton] using hnext
          | cons _ _ => simp [List.intercalate_cons_cons, hnext]

theorem words_cons_of_blank {c : Char} (hc : isBlank c = true) (rest : List Char) :
    words (c :: rest) = words rest := by
  rw [words, cutAtBlanks, if_pos hc]
  rfl

theorem words_cons_ne_nil {c : Char} (hc : isBlank c = false) (rest : List Char) :
    words (c :: rest) ≠ [] := by
  rw [words, cutAtBlanks, if_neg (by rw [hc]; exact Bool.false_ne_true)]
  cases cutAtBlanks rest with
  | nil => exact List.cons_ne_nil _ _
  | cons word others => exact List.cons_ne_nil _ _

theorem words_eq_nil_iff {text : List Char} : words text = [] ↔ allBlank text = true := by
  induction text with
  | nil => exact iff_of_true rfl rfl
  | cons c rest ih =>
      rw [allBlank, List.all_cons, Bool.and_eq_true]
      by_cases hc : isBlank c = true
      · rw [words_cons_of_blank hc, and_iff_right hc]
        exact ih
      · exact iff_of_false (words_cons_ne_nil (Bool.not_eq_true _ ▸ hc) rest) fun h => hc h.1

/-- Nothing is left of a text if there is nothing to see in it. -/
theorem squeeze_eq_nil_iff {text : List Char} : squeeze text = [] ↔ allBlank text = true := by
  rw [← words_eq_nil_iff]
  constructor
  · intro h
    cases hwords : words text with
    | nil => rfl
    | cons word rest =>
        have hne : word ≠ [] := ne_nil_of_mem_words (hwords ▸ List.mem_cons_self)
        rw [squeeze, hwords] at h
        cases rest with
        | nil => exact absurd h (by simpa [List.intercalate_singleton] using hne)
        | cons _ _ => exact absurd h (by simp [List.intercalate_cons_cons, hne])
  · intro h
    rw [squeeze, h]
    rfl

/-- One character that is not blank makes a text one with something to see. -/
theorem allBlank_eq_false_of_mem {text : List Char} {c : Char} (hc : c ∈ text)
    (hvisible : isBlank c = false) : allBlank text = false := by
  rw [allBlank, List.all_eq_false]
  exact ⟨c, hc, by rw [hvisible]; exact Bool.false_ne_true⟩

theorem trim_eq_self {text : List Char} (h : ∀ c ∈ text, isBlank c = false) : trim text = text := by
  have hdrop : ∀ {part : List Char}, (∀ c ∈ part, isBlank c = false) →
      part.dropWhile isBlank = part := by
    intro part hpart
    cases part with
    | nil => rfl
    | cons c part => exact List.dropWhile_cons_of_neg (by simp [hpart c List.mem_cons_self])
  have hreverse : ∀ c ∈ text.reverse, isBlank c = false := fun c hc => h c (List.mem_reverse.mp hc)
  rw [trim, trimLeft, hdrop h, trimRight, hdrop hreverse, List.reverse_reverse]

/-! ## Blanks at the ends -/

/-- Something to see, with no blank before or behind it. -/
structure Trimmed (text : List Char) : Prop where
  ne_nil : text ≠ []
  not_leading : ∀ c ∈ text.head?, isBlank c = false
  not_trailing : ∀ c ∈ text.getLast?, isBlank c = false

theorem trimRight_isPrefix (text : List Char) : trimRight text <+: text :=
  List.rdropWhile_prefix isBlank text

theorem trim_infix (text : List Char) : trim text <:+: text :=
  (trimRight_isPrefix _).isInfix.trans (List.dropWhile_suffix isBlank).isInfix

theorem trimmed_trim {text : List Char} (h : trim text ≠ []) : Trimmed (trim text) where
  ne_nil := h
  not_leading := by
    intro c hc
    -- The blanks behind are dropped from a text that starts with the same character.
    obtain ⟨behind, hbehind⟩ := trimRight_isPrefix (trimLeft text)
    have hhead : (trimLeft text).head? = some c := by
      rw [← hbehind, ← trim, List.head?_append_of_ne_nil _ h]
      exact hc
    have hfirst := List.head?_dropWhile_not isBlank text
    rw [← trimLeft, hhead] at hfirst
    exact hfirst
  not_trailing := by
    intro c hc
    have hlast : ¬ isBlank ((trim text).getLast h) = true := List.rdropWhile_last_not isBlank _ h
    rw [List.getLast?_eq_some_getLast h] at hc
    obtain rfl := Option.some.inj hc
    exact Bool.not_eq_true _ ▸ hlast

end Text

end SnippetScope
