/-
  SnippetScope.Proofs.FilePath.Order

  The order of paths.  It is the lexicographic order of the components' keys
  (`before_iff`), hence a linear order on paths up to their components, and
  sorting puts paths with different components in strictly increasing order.
-/
import SnippetScope.FilePath.Derived
import Mathlib.Data.List.Lex
import Mathlib.Data.List.Sort
import Mathlib.Data.Prod.Lex
import Mathlib.Data.String.Basic

namespace SnippetScope.FilePath

/-! ## Keys -/

/-- The rank of a component's kind and, among named entries, the name. -/
def Component.key : Component → ℕ ×ₗ List Char
  | .named name => toLex (3, name)
  | c => toLex (c.rank, [])

theorem Component.key_injective : Function.Injective Component.key := by
  intro a b h
  cases a <;> cases b <;> simp_all [Component.key, Component.rank]

theorem Component.before_iff (a b : Component) : a.before b = true ↔ a.key < b.key := by
  cases a <;> cases b <;> simp [Component.before, Component.key, Component.rank, Prod.Lex.lt_iff]

/-- What paths are compared by. -/
def orderKey (path : List Char) : List (ℕ ×ₗ List Char) :=
  (components path).map Component.key

theorem componentsBefore_iff (as bs : List Component) :
    componentsBefore as bs = true ↔ as.map Component.key < bs.map Component.key := by
  induction as generalizing bs with
  | nil => cases bs <;> simp [componentsBefore]
  | cons a as ih =>
      cases bs with
      | nil => simp [componentsBefore]
      | cons b bs =>
          rw [List.map_cons, List.map_cons, List.cons_lt_cons_iff, componentsBefore]
          by_cases hab : a = b
          · simp [hab, ih]
          · have hkey : a.key ≠ b.key := fun h => hab (Component.key_injective h)
            simp [hab, hkey, Component.before_iff]

theorem before_iff (a b : List Char) : before a b = true ↔ orderKey a < orderKey b :=
  componentsBefore_iff _ _

-- The slash counts less than any character, so this is not the order of the texts.
example : before "a/b".toList "a-b".toList = true ∧ "a-b".toList < "a/b".toList := by decide

theorem components_eq_of_orderKey_eq {a b : List Char} (h : orderKey a = orderKey b) :
    components a = components b :=
  List.map_injective_iff.mpr Component.key_injective h

/-! ## Sorting -/

theorem mem_sort {path : List Char} {paths : List (List Char)} :
    path ∈ sort paths ↔ path ∈ paths :=
  List.mem_mergeSort

theorem sort_perm (paths : List (List Char)) : (sort paths).Perm paths :=
  List.mergeSort_perm paths _

theorem pairwise_sort (paths : List (List Char)) :
    (sort paths).Pairwise fun a b => orderKey a ≤ orderKey b := by
  have hle : ∀ a b, (!before b a) = true ↔ orderKey a ≤ orderKey b := by
    intro a b
    rw [Bool.not_eq_true', ← Bool.not_eq_true, before_iff, not_lt]
  have hsorted : (sort paths).Pairwise fun a b => (!before b a) = true := by
    apply List.pairwise_mergeSort
    · intro a b c hab hbc
      rw [hle] at hab hbc ⊢
      exact hab.trans hbc
    · intro a b
      rw [Bool.or_eq_true, hle, hle]
      exact le_total _ _
  exact hsorted.imp fun h => (hle _ _).mp h

/-- Paths whose components differ are sorted strictly. -/
theorem pairwise_before_sort {paths : List (List Char)}
    (h : paths.Pairwise fun a b => components a ≠ components b) :
    (sort paths).Pairwise fun a b => before a b = true := by
  have hdiffer : (sort paths).Pairwise fun a b => components a ≠ components b :=
    (sort_perm paths).symm.pairwise h fun hab => hab.symm
  refine (hdiffer.and (pairwise_sort paths)).imp ?_
  rintro a b ⟨hne, hle⟩
  rw [before_iff]
  exact lt_of_le_of_ne hle fun heq => hne (components_eq_of_orderKey_eq heq)

/-- Things in strictly increasing order of their paths are determined by which
    they are. -/
theorem eq_of_pairwise_before {α : Type} {path : α → List Char} {as bs : List α}
    (ha : as.Pairwise fun a b => before (path a) (path b) = true)
    (hb : bs.Pairwise fun a b => before (path a) (path b) = true)
    (hmem : ∀ a, a ∈ as ↔ a ∈ bs) : as = bs := by
  have hirrefl : Std.Irrefl fun a b => before (path a) (path b) = true :=
    ⟨fun a h => lt_irrefl _ ((before_iff _ _).mp h)⟩
  have hantisymm : Std.Antisymm fun a b => before (path a) (path b) = true :=
    ⟨fun a b h h' => absurd ((before_iff _ _).mp h') (lt_asymm ((before_iff _ _).mp h))⟩
  exact ha.eq_of_mem_iff hb hmem

end SnippetScope.FilePath
