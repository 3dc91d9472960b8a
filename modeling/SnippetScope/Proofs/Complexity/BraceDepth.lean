/-
  SnippetScope.Proofs.Complexity.BraceDepth

  The brace depth of a text.  The search for it carries the current depth and the
  greatest one so far, and the current depth may fall below zero.  Whatever they are
  at the start, what is reached in a text is the depth at its start and that of the
  text by itself (`deepest_eq_max`), so that depths of texts side by side add up from
  those of the parts (`braceDepth_append`).  From this the depth is the greatest
  surplus of opening over closing braces in any beginning of the text
  (`braceDepth_greatest`).
-/
import Mathlib.Data.List.Infix
import Mathlib.Order.Bounds.Defs
import SnippetScope.Complexity

namespace SnippetScope.Complexity

/-! ## Balance -/

/-- By how much the depth at the end of a text differs from that at its start. -/
def balance : List Char → Int
  | [] => 0
  | c :: rest => braceStep c + balance rest

/-- By how many its opening braces exceed the closing ones of a text, which may be
    a negative number. -/
def surplus (text : List Char) : Int :=
  text.count '\x7b' - text.count '\x7d'

theorem surplus_cons (c : Char) (rest : List Char) :
    surplus (c :: rest) = braceStep c + surplus rest := by
  simp only [surplus, braceStep, List.count_cons, beq_iff_eq]
  by_cases hopening : c = '\x7b'
  · have hclosing : c ≠ '\x7d' := by
      rw [hopening]
      decide
    rw [if_pos hopening, if_neg hclosing, if_pos hopening]
    omega
  · rw [if_neg hopening, if_neg hopening]
    split <;> omega

theorem balance_eq_surplus (text : List Char) : balance text = surplus text := by
  induction text with
  | nil => rfl
  | cons c rest ih => rw [balance, surplus_cons, ih]

/-! ## The greatest depth -/

theorem le_deepest (depth reached : Int) (text : List Char) :
    reached ≤ deepest depth reached text := by
  induction text generalizing depth reached with
  | nil => exact Int.le_refl reached
  | cons c text ih =>
      have hrest := ih (depth + braceStep c) (max reached (depth + braceStep c))
      rw [deepest]
      omega

/-- What is reached counts from the depth at the start. -/
theorem deepest_eq_max {depth reached : Int} (h : depth ≤ reached) (text : List Char) :
    deepest depth reached text = max reached (depth + deepest 0 0 text) := by
  -- The depth never exceeds what is reached, at the start and after each character.
  induction text generalizing depth reached with
  | nil =>
      show reached = max reached (depth + 0)
      omega
  | cons c rest ih =>
      have hwhole : deepest depth reached (c :: rest)
          = max (max reached (depth + braceStep c))
              (depth + braceStep c + deepest 0 0 rest) :=
        ih (Int.le_max_right _ _)
      have halone : deepest 0 0 (c :: rest)
          = max (max 0 (0 + braceStep c)) (0 + braceStep c + deepest 0 0 rest) :=
        ih (Int.le_max_right _ _)
      rw [hwhole, halone]
      omega

/-- The second text is entered at the depth that the first one is left at. -/
theorem deepest_append (depth reached : Int) (a b : List Char) :
    deepest depth reached (a ++ b) = deepest (depth + balance a) (deepest depth reached a) b := by
  induction a generalizing depth reached with
  | nil =>
      have hnone : depth + balance [] = depth := Int.add_zero depth
      rw [hnone]
      rfl
  | cons c a ih =>
      have hdepth : depth + balance (c :: a) = depth + braceStep c + balance a := by
        rw [balance]
        omega
      rw [hdepth]
      exact ih (depth + braceStep c) (max reached (depth + braceStep c))

/-- The depth at the end of a text is one that has been reached. -/
theorem balance_le_deepest {depth reached : Int} (h : depth ≤ reached) (text : List Char) :
    depth + balance text ≤ deepest depth reached text := by
  induction text generalizing depth reached with
  | nil =>
      show depth + 0 ≤ reached
      omega
  | cons c rest ih =>
      have hrest : depth + braceStep c + balance rest ≤ deepest depth reached (c :: rest) :=
        ih (Int.le_max_right _ _)
      rw [balance]
      omega

/-! ## The depth of a text -/

theorem natCast_braceDepth (text : List Char) : (braceDepth text : Int) = deepest 0 0 text :=
  Int.toNat_of_nonneg (le_deepest 0 0 text)

theorem braceDepth_append (a b : List Char) :
    (braceDepth (a ++ b) : Int) = max (braceDepth a : Int) (balance a + braceDepth b) := by
  have hend : 0 + balance a ≤ deepest 0 0 a := balance_le_deepest (Int.le_refl 0) a
  simp only [natCast_braceDepth]
  rw [deepest_append, deepest_eq_max hend, Int.zero_add]

theorem braceDepth_cons (c : Char) (rest : List Char) :
    (braceDepth (c :: rest) : Int) = max 0 (braceStep c + braceDepth rest) := by
  have hone : balance [c] = braceStep c := Int.add_zero _
  have hfirst : (braceDepth [c] : Int) = max 0 (0 + braceStep c) := natCast_braceDepth [c]
  have hboth := braceDepth_append [c] rest
  rw [List.singleton_append, hone, hfirst] at hboth
  omega

/-- No beginning of a text leaves more braces open than its depth. -/
theorem balance_le_braceDepth {front text : List Char} (h : front <+: text) :
    balance front ≤ braceDepth text := by
  obtain ⟨behind, rfl⟩ := h
  rw [braceDepth_append]
  omega

/-- Some beginning of a text leaves as many braces open as its depth. -/
theorem exists_prefix_balance_eq (text : List Char) :
    ∃ front, front <+: text ∧ balance front = braceDepth text := by
  induction text with
  | nil => exact ⟨[], List.prefix_rfl, rfl⟩
  | cons c rest ih =>
      obtain ⟨front, hfront, hbalance⟩ := ih
      have hdepth := braceDepth_cons c rest
      -- The empty beginning will do if the first character leads too far down.
      by_cases hdown : braceStep c + braceDepth rest ≤ 0
      · refine ⟨[], List.nil_prefix, ?_⟩
        show (0 : Int) = braceDepth (c :: rest)
        omega
      · refine ⟨c :: front, List.cons_prefix_cons.mpr ⟨rfl, hfront⟩, ?_⟩
        rw [balance]
        omega

/-- The depth is the greatest surplus of opening braces in any beginning of the text,
    the empty one included. -/
theorem isGreatest_braceDepth (text : List Char) :
    IsGreatest {d : Int | ∃ front, front <+: text ∧ surplus front = d} (braceDepth text) := by
  constructor
  · obtain ⟨front, hfront, hbalance⟩ := exists_prefix_balance_eq text
    exact ⟨front, hfront, by rw [← balance_eq_surplus, hbalance]⟩
  · rintro d ⟨front, hfront, rfl⟩
    rw [← balance_eq_surplus]
    exact balance_le_braceDepth hfront

theorem braceDepth_enclosed (text : List Char) :
    braceDepth ('\x7b' :: text ++ ['\x7d']) = 1 + braceDepth text := by
  have hopening : braceStep '\x7b' = 1 := by decide
  have hclosing : braceDepth ['\x7d'] = 0 := by decide
  have hopened := braceDepth_cons '\x7b' text
  have hboth := braceDepth_append ('\x7b' :: text) ['\x7d']
  -- What the text leaves open is no more than its depth, and the last brace adds none.
  have hleft : balance text ≤ braceDepth text := balance_le_braceDepth List.prefix_rfl
  rw [balance, hclosing, hopening] at hboth
  rw [hopening] at hopened
  omega

/-- The depth of a text is the greatest number by which the opening braces exceed the
    closing ones in a beginning of the text.  Of two texts side by side the second
    counts from what the first leaves open, which may be less than nothing, and braces
    around a text make it deeper by one.  The greatest depth is never negative where it
    is taken as a natural number. -/
theorem braceDepth_greatest (text : List Char) :
    IsGreatest {d : Int | ∃ front, front <+: text ∧ surplus front = d} (braceDepth text)
      ∧ (∀ behind, (braceDepth (text ++ behind) : Int)
          = max (braceDepth text : Int) (surplus text + braceDepth behind))
      ∧ braceDepth ('\x7b' :: text ++ ['\x7d']) = 1 + braceDepth text
      ∧ 0 ≤ deepest 0 0 text := by
  refine ⟨isGreatest_braceDepth text, ?_, braceDepth_enclosed text, le_deepest 0 0 text⟩
  intro behind
  rw [← balance_eq_surplus]
  exact braceDepth_append text behind

end SnippetScope.Complexity
