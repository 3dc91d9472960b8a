/-
  SnippetScope.Proofs.Unicode.UpperCase

  Upper-casing and control characters.  No table sends a character to one of
  them, and they are their own upper-case forms, so that the upper-case form of a
  text holds no control characters but those of the text
  (`mem_of_mem_upperCase`).
-/
import SnippetScope.Unicode.UpperCase
import Mathlib.Data.List.Basic

namespace SnippetScope.Unicode

/-- The control characters of the ASCII block, without the null character. -/
def IsControl (c : Char) : Prop :=
  0 < c.toNat ∧ c.toNat < 32

instance (c : Char) : Decidable (IsControl c) :=
  inferInstanceAs (Decidable (_ ∧ _))

/-- A code point that is no control character gives none. -/
theorem not_isControl_ofNat {code : Nat} (h : 32 ≤ code) : ¬ IsControl (Char.ofNat code) := by
  intro hcontrol
  by_cases hvalid : code.isValidChar
  · have hcode : (Char.ofNat code).toNat = code := by
      rw [Char.ofNat, dif_pos hvalid]
      rfl
    have hlt := hcontrol.2
    omega
  · have hnull : Char.ofNat code = Char.ofNat 0 := dif_neg hvalid
    rw [hnull] at hcontrol
    exact absurd hcontrol (by decide)

/-! ## Tables -/

theorem le_target_of_mem_upperRuns : ∀ run ∈ upperRuns, 32 ≤ run.target := by
  decide +kernel

theorem le_code_of_mem_upperExpansions :
    ∀ entry ∈ upperExpansions, ∀ code ∈ entry.2, 32 ≤ code := by
  decide +kernel

/-- A run leads to no control character; where there is no run, the character
    stays. -/
theorem mapCase_eq_self {c : Char} (h : IsControl (mapCase upperRuns c)) :
    mapCase upperRuns c = c := by
  rw [mapCase] at h ⊢
  cases hfind : upperRuns.find? (·.covers c.toNat) with
  | none => rfl
  | some run =>
      rw [hfind] at h
      have htarget := le_target_of_mem_upperRuns run (List.mem_of_find?_eq_some hfind)
      have happly : 32 ≤ run.apply c.toNat := by
        rw [CaseRun.apply]
        omega
      exact absurd h (not_isControl_ofNat happly)

theorem toUpper_eq_self {c : Char} (hascii : c.toNat < 128) (h : IsControl c.toUpper) :
    c.toUpper = c := by
  have hchars : ∀ code < 128, IsControl (Char.ofNat code).toUpper →
      (Char.ofNat code).toUpper = Char.ofNat code := by
    decide +kernel
  have hchar := hchars c.toNat hascii
  rw [Char.ofNat_toNat] at hchar
  exact hchar h

/-! ## Texts -/

theorem eq_of_mem_upperChar {c d : Char} (hd : d ∈ upperChar c) (hcontrol : IsControl d) :
    d = c := by
  rw [upperChar] at hd
  split at hd
  · rename_i hascii
    obtain rfl := List.mem_singleton.mp hd
    exact toUpper_eq_self hascii hcontrol
  · cases hlookup : upperExpansions.lookup c.toNat with
    | none =>
        rw [hlookup] at hd
        obtain rfl := List.mem_singleton.mp hd
        exact mapCase_eq_self hcontrol
    | some codes =>
        rw [hlookup] at hd
        obtain ⟨code, hcode, rfl⟩ := List.mem_map.mp hd
        obtain ⟨before, behind, htable, -⟩ := List.lookup_eq_some_iff.mp hlookup
        have hentry : (c.toNat, codes) ∈ upperExpansions := by
          rw [htable]
          exact List.mem_append_right _ List.mem_cons_self
        have hle := le_code_of_mem_upperExpansions _ hentry code hcode
        exact absurd hcontrol (not_isControl_ofNat hle)

/-- A control character in the upper-case form of a text is one of the text. -/
theorem mem_of_mem_upperCase {c : Char} (hcontrol : IsControl c) {text : List Char}
    (h : c ∈ upperCase text) : c ∈ text := by
  obtain ⟨d, hd, hc⟩ := List.mem_flatMap.mp h
  rw [eq_of_mem_upperChar hc hcontrol]
  exact hd

end SnippetScope.Unicode
