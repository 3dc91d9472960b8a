/-
  SnippetScope.Proofs.Language.Extension

  Spellings of file name extensions.  An extension is looked up by its key,
  which has no dots in front and no ASCII capitals; all spellings of an
  extension have the same key (`Spells.extensionKey_eq`), and keys are the
  extensions that are their own key (`isKey_iff`).
-/
import SnippetScope.Language
import Mathlib

namespace SnippetScope.Language

/-! ## ASCII case -/

theorem toLower_of_isUpper_eq_false {c : Char} (h : c.isUpper = false) : c.toLower = c := by
  rw [Char.isUpper, decide_eq_false_iff_not] at h
  rw [Char.toLower, dif_neg h]

theorem toNat_toLower_of_isUpper {c : Char} (h : c.isUpper = true) :
    c.toLower.toNat = c.toNat + 32 ∧ 65 ≤ c.toNat ∧ c.toNat ≤ 90 := by
  rw [Char.isUpper, decide_eq_true_iff] at h
  have hlow : 65 ≤ c.toNat := h.1
  have hhigh : c.toNat ≤ 90 := h.2
  refine ⟨?_, hlow, hhigh⟩
  have hsum : c.toLower.toNat = (c.val + 32).toNat := by
    rw [Char.toLower, dif_pos h]
    rfl
  have hmod : (c.val + 32).toNat = (c.toNat + 32) % 2 ^ 32 := UInt32.toNat_add c.val 32
  rw [hsum, hmod]
  omega

theorem isUpper_toLower (c : Char) : c.toLower.isUpper = false := by
  by_cases h : c.isUpper = true
  · obtain ⟨hcode, hlow, -⟩ := toNat_toLower_of_isUpper h
    rw [Char.isUpper, decide_eq_false_iff_not]
    rintro ⟨-, hhigh⟩
    have hhigh : c.toLower.toNat ≤ 90 := hhigh
    omega
  · rw [Bool.not_eq_true] at h
    rw [toLower_of_isUpper_eq_false h, h]

theorem toLower_eq_dot_iff {c : Char} : c.toLower = '.' ↔ c = '.' := by
  by_cases h : c.isUpper = true
  · obtain ⟨hcode, hlow, -⟩ := toNat_toLower_of_isUpper h
    have hdot : '.'.toNat = 46 := rfl
    constructor
    · intro heq
      rw [heq] at hcode
      omega
    · rintro rfl
      omega
  · rw [Bool.not_eq_true] at h
    rw [toLower_of_isUpper_eq_false h]

theorem map_toLower_of_no_capital {text : List Char} (h : ∀ c ∈ text, c.isUpper = false) :
    text.map Char.toLower = text := by
  rw [List.map_congr_left fun c hc => toLower_of_isUpper_eq_false (h c hc), List.map_id']

/-! ## Keys -/

/-- The form in which extensions are looked up: no dot in front and no ASCII
    capitals. -/
structure IsKey (extension : String) : Prop where
  no_dot : extension.toList.head? ≠ some '.'
  no_capital : ∀ c ∈ extension.toList, c.isUpper = false

/-- The text is the extension with any number of dots in front and in any
    ASCII case. -/
def Spells (given extension : String) : Prop :=
  ∃ (dots : Nat) (letters : List Char), given.toList = List.replicate dots '.' ++ letters
    ∧ letters.map Char.toLower = extension.toList.map Char.toLower

variable {extension given : String}

theorem toList_extensionKey (extension : String) :
    (extensionKey extension).toList
      = (extension.toList.map Char.toLower).dropWhile (· == '.') := by
  have hdot : (· == '.') ∘ Char.toLower = fun c => c == '.' := by
    funext c
    rw [Function.comp_apply, Bool.eq_iff_iff, beq_iff_eq, beq_iff_eq, toLower_eq_dot_iff]
  rw [extensionKey, String.toList_ofList, List.dropWhile_map, hdot]

theorem isKey_extensionKey (extension : String) : IsKey (extensionKey extension) := by
  rw [extensionKey]
  refine ⟨?_, fun c hc => ?_⟩
  · rw [← extensionKey, toList_extensionKey]
    intro h
    have hdot := List.head?_dropWhile_not (· == '.') (extension.toList.map Char.toLower)
    rw [h] at hdot
    simp at hdot
  · rw [String.toList_ofList, List.mem_map] at hc
    obtain ⟨c, -, rfl⟩ := hc
    exact isUpper_toLower c

theorem IsKey.extensionKey_eq (h : IsKey extension) : extensionKey extension = extension := by
  apply String.toList_injective
  rw [toList_extensionKey, map_toLower_of_no_capital h.no_capital]
  cases htext : extension.toList with
  | nil => rfl
  | cons c rest =>
      have hc : c ≠ '.' := by
        rintro rfl
        exact h.no_dot (by rw [htext]; rfl)
      rw [List.dropWhile_cons_of_neg (by simpa using hc)]

theorem isKey_iff : IsKey extension ↔ extensionKey extension = extension :=
  ⟨IsKey.extensionKey_eq, fun h => h ▸ isKey_extensionKey extension⟩

instance (extension : String) : Decidable (IsKey extension) :=
  decidable_of_iff _ isKey_iff.symm

/-- All spellings of an extension are looked up alike. -/
theorem Spells.extensionKey_eq (h : Spells given extension) :
    extensionKey given = extensionKey extension := by
  obtain ⟨dots, letters, hgiven, hletters⟩ := h
  apply String.toList_injective
  rw [toList_extensionKey, toList_extensionKey, hgiven, ← hletters, List.map_append,
    List.map_replicate]
  have hdots : (List.replicate dots (Char.toLower '.')).dropWhile (· == '.') = [] := by
    rw [List.dropWhile_replicate]
    rfl
  rw [List.dropWhile_append, hdots]
  rfl

theorem ofExtension?_extensionKey (extension : String) :
    ofExtension? (extensionKey extension) = ofExtension? extension := by
  rw [ofExtension?, (isKey_extensionKey extension).extensionKey_eq]
  rfl

end SnippetScope.Language
