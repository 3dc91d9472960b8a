/-
  SnippetScope.Proofs.Report.Sequences

  The sequences that switch styles, and what is left of a text without them.
  `withoutSequences` deletes each of them from its escape character to its
  final letter.  The main statement is that spans written in colours are without
  their sequences the spans written without colours, as long as no text of a
  span brings in escape characters of its own (`withoutSequences_writeSpans`).
-/
import SnippetScope.Proofs.Text.Lines
import SnippetScope.Report.Styled

namespace SnippetScope.Report

/-! ## Deleting sequences -/

/-- A digit or a semicolon, as they stand inside of a sequence. -/
def isCodeChar (c : Char) : Bool :=
  c.isDigit || c == ';'

/-- What follows the sequence at the start of the text, if there is one. -/
def afterSequence? : List Char → Option (List Char)
  | '\x1b' :: '[' :: rest =>
    match rest.dropWhile isCodeChar with
    | 'm' :: after => some after
    | _ => none
  | _ => none

theorem length_lt_of_afterSequence? {text after : List Char}
    (h : afterSequence? text = some after) : after.length < text.length := by
  unfold afterSequence? at h
  split at h
  · rename_i rest
    have hle : (rest.dropWhile isCodeChar).length ≤ rest.length :=
      (List.dropWhile_sublist isCodeChar).length_le
    split at h
    · rename_i found hfound
      obtain rfl := Option.some.inj h
      rw [hfound, List.length_cons] at hle
      rw [List.length_cons, List.length_cons]
      omega
    · cases h
  · cases h

/-- The text without its sequences, found from left to right. -/
def withoutSequences : List Char → List Char
  | [] => []
  | c :: rest =>
    match _h : afterSequence? (c :: rest) with
    | some after => withoutSequences after
    | none => c :: withoutSequences rest
termination_by text => text.length
decreasing_by
  · exact length_lt_of_afterSequence? _h
  · exact Nat.lt_succ_self _

theorem withoutSequences_nil : withoutSequences [] = [] := by
  rw [withoutSequences]

theorem withoutSequences_cons (c : Char) (rest : List Char) :
    withoutSequences (c :: rest) = match afterSequence? (c :: rest) with
      | some after => withoutSequences after
      | none => c :: withoutSequences rest := by
  rw [withoutSequences]
  split
  · rename_i after hafter
    rw [hafter]
  · rename_i hnone
    rw [hnone]

/-- Only an escape character starts a sequence. -/
theorem withoutSequences_cons_of_ne {c : Char} (h : c ≠ escapeCharacter) (rest : List Char) :
    withoutSequences (c :: rest) = c :: withoutSequences rest := by
  have hnone : afterSequence? (c :: rest) = none := by
    unfold afterSequence?
    split
    · rename_i heq
      exact absurd (List.cons.inj heq).1 h
    · rfl
  rw [withoutSequences_cons, hnone]

/-- A text without escape characters stays as it is. -/
theorem withoutSequences_append {text : List Char} (h : escapeCharacter ∉ text)
    (rest : List Char) : withoutSequences (text ++ rest) = text ++ withoutSequences rest := by
  induction text with
  | nil => rfl
  | cons c text ih =>
      obtain ⟨hc, htext⟩ := List.ne_and_not_mem_of_not_mem_cons h
      rw [List.cons_append, withoutSequences_cons_of_ne (Ne.symm hc), ih htext, List.cons_append]

/-- A sequence goes, whatever its codes are. -/
theorem withoutSequences_sequence {codes : List Char} (h : ∀ c ∈ codes, isCodeChar c = true)
    (rest : List Char) :
    withoutSequences (escapeCharacter :: '[' :: (codes ++ 'm' :: rest))
      = withoutSequences rest := by
  have hcodes : (codes ++ 'm' :: rest).dropWhile isCodeChar = 'm' :: rest := by
    rw [List.dropWhile_append_of_pos h]
    exact List.dropWhile_cons_of_neg (by decide)
  have hafter : afterSequence? (escapeCharacter :: '[' :: (codes ++ 'm' :: rest)) = some rest := by
    show afterSequence? ('\x1b' :: '[' :: (codes ++ 'm' :: rest)) = some rest
    simp only [afterSequence?, hcodes]
  rw [withoutSequences_cons, hafter]

/-! ## Sequences of styles -/

theorem isCodeChar_of_mem_codes (style : Style) :
    ∀ c ∈ List.intercalate [';'] (style.codes.map (Nat.toDigits 10)), isCodeChar c = true := by
  have hbetween : ∀ c ∈ [';'], isCodeChar c = true := List.forall_mem_singleton.mpr rfl
  apply Text.forall_mem_intercalate hbetween
  intro digits hdigits c hc
  obtain ⟨code, -, rfl⟩ := List.mem_map.mp hdigits
  rw [isCodeChar, Nat.isDigit_of_mem_toDigits (by omega) (by omega) hc, Bool.true_or]

theorem withoutSequences_start (style : Style) (rest : List Char) :
    withoutSequences (style.start ++ rest) = withoutSequences rest := by
  have hsequence := withoutSequences_sequence (isCodeChar_of_mem_codes style) rest
  rw [Style.start, List.append_assoc]
  exact hsequence

theorem withoutSequences_styleEnd (rest : List Char) :
    withoutSequences (styleEnd ++ rest) = withoutSequences rest := by
  have hcode : ∀ c ∈ ['0'], isCodeChar c = true := List.forall_mem_singleton.mpr rfl
  exact withoutSequences_sequence hcode rest

/-- Where no style is switched off, none is switched on again. -/
theorem resume_eq_self (style : Style) {text : List Char} (h : escapeCharacter ∉ text) :
    resume style text = text := by
  induction text with
  | nil => rfl
  | cons c text ih =>
      obtain ⟨hc, htext⟩ := List.ne_and_not_mem_of_not_mem_cons h
      rw [resume, ih htext]
      rintro after rfl -
      exact hc rfl

/-! ## Spans -/

/-- No escape character stands in the text. -/
def EscapeFree (text : String) : Prop :=
  escapeCharacter ∉ text.toList

instance (text : String) : Decidable (EscapeFree text) :=
  inferInstanceAs (Decidable (_ ∉ _))

/-- The text of a span. -/
def Span.text : Span → String
  | plain text => text
  | styled _ text => text

@[simp] theorem Span.text_plain (text : String) : (Span.plain text).text = text := rfl

@[simp] theorem text_dim (text : String) : (dim text).text = text := rfl

@[simp] theorem text_strong (text : String) : (strong text).text = text := rfl

@[simp] theorem text_coloured (colour : Colour) (text : String) :
    (coloured colour text).text = text := rfl

@[simp] theorem text_strongColoured (colour : Colour) (text : String) :
    (strongColoured colour text).text = text := rfl

theorem Span.write_false (span : Span) : span.write false = span.text.toList := by
  cases span <;> rfl

/-- In front of any other text, a span leaves just its own text behind. -/
theorem withoutSequences_write {span : Span} (h : EscapeFree span.text) (rest : List Char) :
    withoutSequences (span.write true ++ rest) = span.write false ++ withoutSequences rest := by
  rw [Span.write_false]
  cases span with
  | plain text => exact withoutSequences_append h rest
  | styled style text =>
      have hfree : escapeCharacter ∉ text.toList := h
      have hwritten : (Span.styled style text).write true
          = style.start ++ (text.toList ++ styleEnd) := by
        rw [Span.write, if_pos rfl, resume_eq_self style hfree, List.append_assoc]
      rw [hwritten, List.append_assoc, withoutSequences_start, List.append_assoc,
        withoutSequences_append hfree, withoutSequences_styleEnd]
      rfl

/-- No text of a span holds an escape character. -/
def AllFree (spans : List Span) : Prop :=
  ∀ span ∈ spans, EscapeFree span.text

instance (spans : List Span) : Decidable (AllFree spans) :=
  inferInstanceAs (Decidable (∀ span ∈ spans, _))

/-- Without the sequences, colours make no difference. -/
theorem withoutSequences_writeSpans {spans : List Span} (h : AllFree spans) :
    withoutSequences (writeSpans true spans).toList = (writeSpans false spans).toList := by
  simp only [writeSpans, String.toList_ofList]
  induction spans with
  | nil => exact withoutSequences_nil
  | cons span spans ih =>
      obtain ⟨hspan, hspans⟩ := List.forall_mem_cons.mp h
      rw [List.flatMap_cons, withoutSequences_write hspan, ih hspans, List.flatMap_cons]

-- With the sequences in, colours do make a difference.
example : writeSpans true [strong "A"] ≠ writeSpans false [strong "A"] := by decide

end SnippetScope.Report
