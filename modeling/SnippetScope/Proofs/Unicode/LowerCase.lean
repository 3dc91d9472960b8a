/-
  SnippetScope.Proofs.Unicode.LowerCase

  Lower-casing of texts that stand inside of longer ones.  What a character
  becomes depends on its neighbours only for a capital sigma, and there only
  which of the two small sigmas it is.  Without regard to this choice a text is
  lower-cased character by character (`map_medial_lowerCase`), so a word without
  sigmas that stands in the lower-case form of a text stands in that of every
  longer text, too (`infix_lowerCase_append`).
-/
import SnippetScope.Unicode.LowerCase
import Mathlib.Data.List.Infix

namespace SnippetScope.Unicode

/-- The small Greek sigma in the middle of a word. -/
def smallSigma : Char := Char.ofNat 963

/-- The small Greek sigma at the end of a word. -/
def finalSigma : Char := Char.ofNat 962

/-- The character as it is in the middle of a word. -/
def medial (c : Char) : Char :=
  if c = finalSigma then smallSigma else c

/-- The lower-case form of a character in the middle of a word. -/
def lowerMedial (c : Char) : List Char :=
  if c = capitalSigma then [smallSigma] else (lowerChar c).map medial

theorem medial_lowerSigma (before after : List Char) :
    medial (lowerSigma before after) = smallSigma := by
  rw [lowerSigma]
  split <;> decide

/-- Both forms of the sigma taken as one, every character is lower-cased by
    itself, whatever stands around it. -/
theorem map_medial_lowerFrom (before text : List Char) :
    (lowerFrom before text).map medial = text.flatMap lowerMedial := by
  induction text generalizing before with
  | nil => rfl
  | cons c rest ih =>
      have hfirst : (if c = capitalSigma then [lowerSigma before rest] else lowerChar c).map medial
          = lowerMedial c := by
        rw [lowerMedial]
        split
        · rw [List.map_singleton, medial_lowerSigma]
        · rfl
      rw [lowerFrom, List.map_append, hfirst, ih, List.flatMap_cons]

theorem map_medial_lowerCase (text : List Char) :
    (lowerCase text).map medial = text.flatMap lowerMedial :=
  map_medial_lowerFrom [] text

/-- The word holds no small sigma, so that no neighbours can change it. -/
def SigmaFree (word : List Char) : Prop :=
  ∀ c ∈ word, c ≠ smallSigma ∧ c ≠ finalSigma

-- Given by name, so that only the characters of the word are looked at.
instance (word : List Char) : Decidable (SigmaFree word) :=
  List.decidableBAll (fun c => c ≠ smallSigma ∧ c ≠ finalSigma) word

theorem SigmaFree.map_medial {word : List Char} (h : SigmaFree word) : word.map medial = word := by
  have hfixed : ∀ c ∈ word, medial c = id c := by
    intro c hc
    exact if_neg (h c hc).2
  rw [List.map_congr_left hfixed, List.map_id]

/-- Only a text that is the word becomes it. -/
theorem SigmaFree.eq_of_map_medial {word text : List Char} (h : SigmaFree word)
    (htext : text.map medial = word) : text = word := by
  have hfixed : ∀ d ∈ text, medial d = id d := by
    intro d hd
    have hmem : medial d ∈ word := by
      rw [← htext]
      exact List.mem_map_of_mem hd
    -- A final sigma would have left a small sigma in the word.
    have hd : d ≠ finalSigma := by
      rintro rfl
      exact (h _ hmem).1 (if_pos rfl)
    exact if_neg hd
  rw [← htext, List.map_congr_left hfixed, List.map_id]

/-- Such a word is found with both forms of the sigma taken as one exactly
    where it is found without. -/
theorem SigmaFree.infix_map_iff {word : List Char} (h : SigmaFree word) (text : List Char) :
    word <:+: text.map medial ↔ word <:+: text := by
  constructor
  · rintro ⟨before, behind, heq⟩
    obtain ⟨front, back, rfl, hfront, -⟩ := List.map_eq_append_iff.mp heq.symm
    obtain ⟨first, middle, rfl, -, hmiddle⟩ := List.map_eq_append_iff.mp hfront
    rw [← h.eq_of_map_medial hmiddle]
    exact List.infix_append first middle back
  · intro hinfix
    have hmapped := List.IsInfix.map medial hinfix
    rw [h.map_medial] at hmapped
    exact hmapped

/-- Such a word is not lost when its text gets neighbours. -/
theorem infix_lowerCase_append {word : List Char} (h : SigmaFree word) {text : List Char}
    (hword : word <:+: lowerCase text) (before behind : List Char) :
    word <:+: lowerCase (before ++ text ++ behind) := by
  rw [← h.infix_map_iff, map_medial_lowerCase] at hword ⊢
  rw [List.flatMap_append, List.flatMap_append]
  exact hword.trans (List.infix_append _ _ _)

-- The neighbours do matter for the text as a whole: the sigma here is not at the end.
example : lowerCase ['A', capitalSigma, 'B']
    ≠ lowerCase ['A', capitalSigma] ++ lowerCase ['B'] := by
  decide

end SnippetScope.Unicode
