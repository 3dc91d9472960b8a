/-
  SnippetScope.Proofs.Diagram.TreePlaces

  Where the values of a tree stand.  The values of a level divide the width of the
  tree evenly, so that on each level the place is a linear function of the index
  (`treePlace_fst`); everything else is read off this one equation.  A value has its
  children on the next level, at the same distance on both sides of it
  (`treePlace_children`), and no two values share a place (`treePlace_injective`).

  The level is the position of the leading bit of the next index.  In words of 64 and
  32 bits it is found from the zeros in front of that bit, and none of the numbers on
  the way leaves the range of its word (`inWords`).
-/
import Mathlib.Algebra.Order.Field.Rat
import Mathlib.Data.Rat.Cast.Order
import Mathlib.Tactic.FieldSimp
import Mathlib.Tactic.Linarith
import Mathlib.Tactic.Positivity
import Mathlib.Tactic.Ring
import SnippetScope.Diagram.Drawing

namespace SnippetScope.Diagram

/-! ## Levels -/

theorem treeLevel_eq_iff {i level : Nat} :
    treeLevel i = level ↔ 2 ^ level ≤ i + 1 ∧ i + 1 < 2 ^ (level + 1) :=
  Nat.log2_eq_iff (Nat.succ_ne_zero i)

/-- A level begins one place before a power of two. -/
theorem treeLevel_spec (i : Nat) : 2 ^ treeLevel i ≤ i + 1 ∧ i + 1 < 2 ^ (treeLevel i + 1) :=
  treeLevel_eq_iff.mp rfl

theorem treeLevel_mono {i j : Nat} (h : i ≤ j) : treeLevel i ≤ treeLevel j := by
  have hlt : 2 ^ treeLevel i < 2 ^ (treeLevel j + 1) :=
    lt_of_le_of_lt ((treeLevel_spec i).1.trans (by omega)) (treeLevel_spec j).2
  exact Nat.lt_succ_iff.mp ((Nat.pow_lt_pow_iff_right (by omega)).mp hlt)

/-- Both children of a value are one level below it. -/
theorem treeLevel_child {i child : Nat} (h : child = 2 * i + 1 ∨ child = 2 * i + 2) :
    treeLevel child = treeLevel i + 1 := by
  obtain ⟨hfirst, hlast⟩ := treeLevel_spec i
  rw [treeLevel_eq_iff, Nat.pow_succ, Nat.pow_succ]
  rw [Nat.pow_succ] at hlast
  omega

/-! ## Places -/

/-- On each level the places are a linear function of the index. -/
theorem treePlace_fst (i : Nat) :
    (treePlace i).1 = treeWidth * ((2 * i + 3) / 2 ^ (treeLevel i + 1) - 1) := by
  have hfirst := (treeLevel_spec i).1
  have hpos : 1 ≤ 2 ^ treeLevel i := Nat.one_le_two_pow
  -- The values before the level are one fewer than a power of two.
  have hplace : ((i - (2 ^ treeLevel i - 1) : Nat) : Rat) = i + 1 - 2 ^ treeLevel i := by
    rw [Nat.cast_sub (by omega), Nat.cast_sub hpos]
    push_cast
    ring
  have hroom : ((2 ^ treeLevel i : Nat) : Rat) = 2 ^ treeLevel i := by
    rw [Nat.cast_pow, Nat.cast_ofNat]
  show ((i - (2 ^ treeLevel i - 1) : Nat) : Rat) * (treeWidth / (2 ^ treeLevel i : Nat))
      + treeWidth / (2 ^ treeLevel i : Nat) / 2 = _
  rw [hplace, hroom, pow_succ]
  field_simp
  ring

theorem treePlace_snd (i : Nat) : (treePlace i).2 = treeLevel i * 2 := rfl

/-- The centre of each value lies over the width of the tree. -/
theorem treePlace_inside (i : Nat) : 0 < (treePlace i).1 ∧ (treePlace i).1 < treeWidth := by
  obtain ⟨hfirst, hlast⟩ := treeLevel_spec i
  have hwidth : 0 < treeWidth := by
    rw [treeWidth]
    positivity
  have hpos : (0 : Rat) < 2 ^ (treeLevel i + 1) := by positivity
  have habove : (2 : Rat) ^ (treeLevel i + 1) < 2 * i + 3 := by
    have hdouble : 2 ^ (treeLevel i + 1) < 2 * i + 3 := by
      rw [Nat.pow_succ]
      omega
    exact_mod_cast hdouble
  have hbelow : (2 * i + 3 : Rat) < 2 * 2 ^ (treeLevel i + 1) := by
    have hdouble : 2 * i + 3 < 2 * 2 ^ (treeLevel i + 1) := by omega
    exact_mod_cast hdouble
  have hlow : 1 < (2 * i + 3 : Rat) / 2 ^ (treeLevel i + 1) := (one_lt_div hpos).mpr habove
  have hhigh : (2 * i + 3 : Rat) / 2 ^ (treeLevel i + 1) < 2 := (div_lt_iff₀ hpos).mpr hbelow
  rw [treePlace_fst]
  constructor
  · exact mul_pos hwidth (by linarith)
  · exact mul_lt_of_lt_one_right hwidth (by linarith)

/-- On a level, later values stand further to the right. -/
theorem treePlace_lt {i j : Nat} (h : i < j) (hlevel : treeLevel i = treeLevel j) :
    (treePlace i).1 < (treePlace j).1 := by
  have hlt : (i : Rat) < j := by exact_mod_cast h
  rw [treePlace_fst, treePlace_fst, hlevel, treeWidth]
  gcongr

/-- A value stands in the middle between its children, each of which is as far from
    it as a quarter of the room on its level. -/
theorem treePlace_children (i : Nat) :
    (treePlace i).1 - (treePlace (2 * i + 1)).1 = treeWidth / 2 ^ (treeLevel i + 2)
      ∧ (treePlace (2 * i + 2)).1 - (treePlace i).1 = treeWidth / 2 ^ (treeLevel i + 2) := by
  have hleft := treeLevel_child (i := i) (.inl rfl)
  have hright := treeLevel_child (i := i) (.inr rfl)
  rw [treePlace_fst i, treePlace_fst (2 * i + 1), treePlace_fst (2 * i + 2), hleft, hright]
  push_cast
  rw [pow_succ _ (treeLevel i + 1)]
  constructor
  · field_simp
    ring
  · field_simp
    ring

/-- No two values share a place. -/
theorem treePlace_injective : Function.Injective treePlace := by
  intro i j h
  have hlevel : treeLevel i = treeLevel j := by
    have hheight : (treeLevel i * 2 : Rat) = treeLevel j * 2 := congrArg Prod.snd h
    exact_mod_cast mul_right_cancel₀ (by norm_num) hheight
  have hplace : (treePlace i).1 = (treePlace j).1 := congrArg Prod.fst h
  rcases lt_trichotomy i j with hlt | heq | hgt
  · exact absurd hplace (treePlace_lt hlt hlevel).ne
  · exact heq
  · exact absurd hplace (treePlace_lt hgt hlevel.symm).ne'

/-! ## In machine words -/

/-- The level of the value at an index, from the zeros in front of the next index. -/
def wordLevel (i : BitVec 64) : BitVec 32 :=
  64#32 - (i + 1#64).clz.setWidth 32 - 1#32

/-- The first index on the level of an index. -/
def wordFirst (i : BitVec 64) : BitVec 64 :=
  (1#64 <<< wordLevel i) - 1#64

/-- The number of places on the level of an index. -/
def wordPlaces (i : BitVec 64) : BitVec 32 :=
  1#32 <<< wordLevel i

/-- The centre of the value at an index, with all whole numbers found in words. -/
def wordTreePlace (i : BitVec 64) : Rat × Rat :=
  let room := treeWidth / (wordPlaces i).toNat
  ((i - wordFirst i).toNat * room + room / 2, (wordLevel i).toNat * 2)

/-- The leading bit of a word stands right behind its leading zeros. -/
theorem log2_eq_of_clz {x : BitVec 64} (hx : x ≠ 0#64) :
    x.clz.toNat < 64 ∧ x.toNat.log2 = 63 - x.clz.toNat := by
  have hzeros : x.clz.toNat < 64 := BitVec.clz_lt_iff_ne_zero.mpr hx
  have hlow := BitVec.two_pow_sub_clz_le_toNat_of_ne_zero (by decide) hx
  have hhigh := BitVec.toNat_lt_two_pow_sub_clz (x := x)
  have hne : x.toNat ≠ 0 := by
    intro hzero
    exact hx (BitVec.eq_of_toNat_eq hzero)
  have hwidth : 63 - x.clz.toNat + 1 = 64 - x.clz.toNat := by omega
  refine ⟨hzeros, (Nat.log2_eq_iff hne).mpr ⟨hlow, ?_⟩⟩
  rw [hwidth]
  exact hhigh

section Words

variable {i : Nat} (h : i + 1 < 2 ^ 32)

include h

theorem toNat_index : (BitVec.ofNat 64 i).toNat = i := by
  rw [BitVec.toNat_ofNat]
  omega

/-- There are fewer zeros in front of the next index than bits in the word, and what is
    left of the bits without the first is the level. -/
theorem clz_nextIndex :
    (BitVec.ofNat 64 i + 1#64).clz.toNat < 64
      ∧ treeLevel i = 63 - (BitVec.ofNat 64 i + 1#64).clz.toNat := by
  have hnext : (BitVec.ofNat 64 i + 1#64).toNat = i + 1 := by
    rw [BitVec.toNat_add, toNat_index h]
    show (i + 1) % 2 ^ 64 = i + 1
    omega
  have hne : BitVec.ofNat 64 i + 1#64 ≠ 0#64 := by
    intro hzero
    have hnat := congrArg BitVec.toNat hzero
    rw [hnext] at hnat
    exact absurd hnat (Nat.succ_ne_zero i)
  obtain ⟨hzeros, hlog⟩ := log2_eq_of_clz hne
  rw [hnext] at hlog
  exact ⟨hzeros, hlog⟩

theorem toNat_wordLevel : (wordLevel (.ofNat 64 i)).toNat = treeLevel i := by
  obtain ⟨hzeros, hlevel⟩ := clz_nextIndex h
  rw [hlevel, wordLevel]
  generalize (BitVec.ofNat 64 i + 1#64).clz = zeros at hzeros
  bv_omega

/-- Both shifts are shorter than their words. -/
theorem treeLevel_lt : treeLevel i < 32 :=
  (Nat.log2_lt (Nat.succ_ne_zero i)).mpr h

theorem toNat_wordFirst : (wordFirst (.ofNat 64 i)).toNat = 2 ^ treeLevel i - 1 := by
  have hlt := treeLevel_lt h
  have hshift : (1#64 <<< wordLevel (.ofNat 64 i)).toNat = 2 ^ treeLevel i := by
    rw [BitVec.shiftLeft_eq', toNat_wordLevel h]
    exact BitVec.toNat_twoPow_of_lt (by omega)
  have hone : 1#64 ≤ 1#64 <<< wordLevel (.ofNat 64 i) := by
    rw [BitVec.le_def, hshift]
    exact Nat.one_le_two_pow
  rw [wordFirst, BitVec.toNat_sub_of_le hone, hshift]
  rfl

theorem wordFirst_le : wordFirst (.ofNat 64 i) ≤ .ofNat 64 i := by
  have hfirst := (treeLevel_spec i).1
  rw [BitVec.le_def, toNat_wordFirst h, toNat_index h]
  omega

theorem toNat_wordPlaces : (wordPlaces (.ofNat 64 i)).toNat = 2 ^ treeLevel i := by
  rw [wordPlaces, BitVec.shiftLeft_eq', toNat_wordLevel h]
  exact BitVec.toNat_twoPow_of_lt (treeLevel_lt h)

theorem wordTreePlace_eq : wordTreePlace (.ofNat 64 i) = treePlace i := by
  have hplace : (BitVec.ofNat 64 i - wordFirst (.ofNat 64 i)).toNat
      = i - (2 ^ treeLevel i - 1) := by
    rw [BitVec.toNat_sub_of_le (wordFirst_le h), toNat_index h, toNat_wordFirst h]
  rw [wordTreePlace, hplace, toNat_wordPlaces h, toNat_wordLevel h]
  rfl

end Words

/-- The place of the value at an index is found in words of 64 and 32 bits, none of
    which overflows: fewer zeros than bits are counted, both shifts are shorter than
    their words, and from the index nothing greater is taken away. -/
structure InWords (i : Nat) : Prop where
  zeros_lt : (BitVec.ofNat 64 i + 1#64).clz.toNat < 64
  level_eq : (wordLevel (.ofNat 64 i)).toNat = treeLevel i
  level_lt : treeLevel i < 32
  first_le : wordFirst (.ofNat 64 i) ≤ .ofNat 64 i
  place_eq : wordTreePlace (.ofNat 64 i) = treePlace i

theorem inWords {i : Nat} (h : i + 1 < 2 ^ 32) : InWords i where
  zeros_lt := (clz_nextIndex h).1
  level_eq := toNat_wordLevel h
  level_lt := treeLevel_lt h
  first_le := wordFirst_le h
  place_eq := wordTreePlace_eq h

/-! ## The geometry of a tree -/

/-- How the value at an index stands in a tree. -/
structure StandsInTree (i : Nat) : Prop where
  /-- Its level is the logarithm of the next index to base two, rounded down. -/
  level : 2 ^ treeLevel i ≤ i + 1 ∧ i + 1 < 2 ^ (treeLevel i + 1)
  /-- It stands over the width of the tree. -/
  inside : 0 < (treePlace i).1 ∧ (treePlace i).1 < treeWidth
  /-- It stands to the left of all later values on its level. -/
  ordered : ∀ j, i < j → treeLevel i = treeLevel j → (treePlace i).1 < (treePlace j).1
  /-- Its children are one level below it, and so two units. -/
  below : ∀ child ∈ [2 * i + 1, 2 * i + 2],
    treeLevel child = treeLevel i + 1 ∧ (treePlace child).2 = (treePlace i).2 + 2
  /-- One child is on each side of it. -/
  between : (treePlace (2 * i + 1)).1 < (treePlace i).1
    ∧ (treePlace i).1 < (treePlace (2 * i + 2)).1
  /-- It is in the middle between its children. -/
  midpoint : (treePlace i).1 = ((treePlace (2 * i + 1)).1 + (treePlace (2 * i + 2)).1) / 2
  /-- No other value stands where it does. -/
  alone : ∀ j, treePlace j = treePlace i → j = i

theorem standsInTree (i : Nat) : StandsInTree i where
  level := treeLevel_spec i
  inside := treePlace_inside i
  ordered := fun _ h hlevel => treePlace_lt h hlevel
  below := by
    intro child hchild
    have hlevel : treeLevel child = treeLevel i + 1 := treeLevel_child (by simpa using hchild)
    refine ⟨hlevel, ?_⟩
    rw [treePlace_snd, treePlace_snd, hlevel]
    push_cast
    ring
  between := by
    obtain ⟨hleft, hright⟩ := treePlace_children i
    have hpos : 0 < treeWidth / 2 ^ (treeLevel i + 2) := by
      rw [treeWidth]
      positivity
    constructor <;> linarith
  midpoint := by
    obtain ⟨hleft, hright⟩ := treePlace_children i
    linarith
  alone := fun _ h => treePlace_injective h

/-- The values of a tree stand as in a binary tree that is filled level by level.  Up to
    the greatest index whose children have indices of 32 bits, the places of a value and
    of its children are computed in machine words without leaving their range. -/
theorem treePlace_geometry {i : Nat} (h : i + 1 < 2 ^ 31) :
    StandsInTree i ∧ ∀ j ∈ [i, 2 * i + 1, 2 * i + 2], InWords j := by
  refine ⟨standsInTree i, ?_⟩
  intro j hj
  have hle : j ≤ 2 * i + 2 := by
    simp only [List.mem_cons, List.not_mem_nil, or_false] at hj
    omega
  exact inWords (by omega)

/-- The last index of level 30, the greatest one below the bound. -/
theorem treePlace_geometry_lastIndex :
    2147483646 + 1 < 2 ^ 31 ∧ treeLevel 2147483646 = 30 ∧ StandsInTree 2147483646
      ∧ InWords 2147483646 ∧ InWords 4294967293 ∧ InWords 4294967294 := by
  have hbound : 2147483646 + 1 < 2 ^ 31 := by decide
  obtain ⟨hstands, hwords⟩ := treePlace_geometry hbound
  refine ⟨hbound, by decide, hstands, ?_, ?_, ?_⟩
  · exact hwords 2147483646 (by decide)
  · exact hwords 4294967293 (by decide)
  · exact hwords 4294967294 (by decide)

end SnippetScope.Diagram
