/-
  SnippetScope.Proofs.Diagram.Escaping

  Texts between tags.  The replacements of whole texts, one after the other,
  amount to one replacement for each character (`escape_eq_flatMap`), so no
  text opens a tag (`lt_not_mem_escape`) and every text can be read back from
  what is written for it, whatever it looks like (`readEntities?_escape`).
-/
import SnippetScope.Diagram.Markup
import Mathlib.Data.List.Basic

namespace SnippetScope.Markup

/-! ## Replacing -/

/-- How a character is written in a text. -/
def escapeChar (c : Char) : List Char :=
  if c = '&' then "&amp;".toList
  else if c = '<' then "&lt;".toList
  else if c = '>' then "&gt;".toList
  else if c = '"' then "&quot;".toList
  else [c]

theorem replaceChar_append (c : Char) (replacement : String) (a b : List Char) :
    replaceChar c replacement (a ++ b)
      = replaceChar c replacement a ++ replaceChar c replacement b :=
  List.flatMap_append

theorem replaceChar_of_ne {c d : Char} (h : d ≠ c) (replacement : String) :
    replaceChar c replacement [d] = [d] := by
  rw [replaceChar, List.flatMap_singleton, if_neg h]

/-- Replacing one character after the other is replacing each character. -/
theorem escape_eq_flatMap (content : String) :
    escape content = content.toList.flatMap escapeChar := by
  rw [escape]
  induction content.toList with
  | nil => rfl
  | cons c text ih =>
      rw [← List.singleton_append, replaceChar_append, replaceChar_append, replaceChar_append,
        replaceChar_append, ih, List.flatMap_append]
      congr 1
      simp only [escapeChar, List.flatMap_singleton]
      split_ifs with hamp hlt hgt hquot
      · subst hamp; decide
      · subst hlt; decide
      · subst hgt; decide
      · subst hquot; decide
      · rw [replaceChar_of_ne hamp, replaceChar_of_ne hlt, replaceChar_of_ne hgt,
          replaceChar_of_ne hquot]

theorem lt_not_mem_escape (content : String) : '<' ∉ escape content := by
  rw [escape_eq_flatMap, List.mem_flatMap]
  rintro ⟨c, -, hc⟩
  rw [escapeChar] at hc
  split_ifs at hc with hamp hlt hgt hquot
  · exact absurd hc (by decide)
  · exact absurd hc (by decide)
  · exact absurd hc (by decide)
  · exact absurd hc (by decide)
  · exact hlt (List.mem_singleton.mp hc).symm

/-! ## Reading back -/

/-- The text that is written between two tags.  An ampersand must open one of
    the four entities. -/
def readEntities? : List Char → Option (List Char)
  | [] => some []
  | '&' :: 'a' :: 'm' :: 'p' :: ';' :: rest => (readEntities? rest).map ('&' :: ·)
  | '&' :: 'l' :: 't' :: ';' :: rest => (readEntities? rest).map ('<' :: ·)
  | '&' :: 'g' :: 't' :: ';' :: rest => (readEntities? rest).map ('>' :: ·)
  | '&' :: 'q' :: 'u' :: 'o' :: 't' :: ';' :: rest => (readEntities? rest).map ('"' :: ·)
  | '&' :: _ => none
  | c :: rest => (readEntities? rest).map (c :: ·)

theorem readEntities?_escapeChar (c : Char) (rest : List Char) :
    readEntities? (escapeChar c ++ rest) = (readEntities? rest).map (c :: ·) := by
  rw [escapeChar]
  split_ifs with hamp hlt hgt hquot
  · subst hamp; simp [readEntities?]
  · subst hlt; simp [readEntities?]
  · subst hgt; simp [readEntities?]
  · subst hquot; simp [readEntities?]
  · simp [readEntities?, hamp]

/-- Every text is read back from what is written for it. -/
theorem readEntities?_escape (content : String) :
    readEntities? (escape content) = some content.toList := by
  rw [escape_eq_flatMap]
  induction content.toList with
  | nil => rfl
  | cons c text ih => rw [List.flatMap_cons, readEntities?_escapeChar, ih, Option.map_some]

end SnippetScope.Markup
