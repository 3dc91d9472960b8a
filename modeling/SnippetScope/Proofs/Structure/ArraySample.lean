/-
  SnippetScope.Proofs.Structure.ArraySample

  The sample of an array, said in terms of the groups that stand in the text.
  Braces come before brackets wherever they stand, and of the groups in one pair
  of marks the first usable one counts (`findSome?_groups_eq_some_iff`).  The
  main statement is that every text which shows signs of an array gets exactly
  the sample that `ArraySample` describes (`sample_of_array`).
-/
import SnippetScope.Proofs.Structure.Groups
import SnippetScope.Proofs.Structure.Inserts
import SnippetScope.Proofs.Text.Occurrences
import Mathlib.Data.List.Infix
import Mathlib.Data.Nat.Digits.Defs

namespace SnippetScope

namespace ArrayLiteral

/-! ## Usable groups -/

/-- The parts of a group between commas, without the blanks around them. -/
def tokens (group : List Char) : List (List Char) :=
  (Text.splitAt ',' group).map Text.trim

/-- The number that decimal digits stand for, the last one being the units. -/
def decimal (token : List Char) : Nat :=
  Nat.ofDigits 10 (token.reverse.map fun c => c.toNat - '0'.toNat)

/-- The token is made of ASCII digits. -/
def IsNumeral (token : List Char) : Prop :=
  token ≠ [] ∧ ∀ c ∈ token, c.isDigit = true

instance (token : List Char) : Decidable (IsNumeral token) :=
  inferInstanceAs (Decidable (_ ∧ _))

/-- Some token of the group is a numeral, and none of its numerals is too great,
    wherever in the group it stands. -/
structure Usable (group : List Char) : Prop where
  exists_numeral : ∃ token ∈ tokens group, IsNumeral token
  fits : ∀ token ∈ tokens group, IsNumeral token → decimal token ≤ 2 ^ 63 - 1

/-- The numbers that the first six numerals of a group stand for. -/
def firstNumbers (group : List Char) : List Nat :=
  (((tokens group).filter (IsNumeral ·)).take 6).map decimal

theorem isNumeral_iff {token : List Char} : isNumeral token = true ↔ IsNumeral token := by
  simp [isNumeral, IsNumeral]

theorem numeralValue_eq_decimal (token : List Char) : numeralValue token = decimal token := by
  -- The last digit counts once, and those before it ten times what they count alone.
  induction token using List.reverseRecOn with
  | nil => rfl
  | append_singleton token c ih =>
      have hvalue : numeralValue (token ++ [c]) = 10 * numeralValue token + (c.toNat - 48) := by
        rw [numeralValue, List.foldl_append]
        rfl
      have hdecimal : decimal (token ++ [c]) = (c.toNat - '0'.toNat) + 10 * decimal token := by
        rw [decimal, List.reverse_concat, List.map_cons, Nat.ofDigits_cons]
        rfl
      rw [hvalue, hdecimal, ih, Nat.add_comm]
      rfl

theorem numerals_eq (group : List Char) :
    numerals group = (tokens group).filter (IsNumeral ·) := by
  rw [numerals, tokens]
  refine List.filter_congr fun token _ => ?_
  rw [Bool.eq_iff_iff, isNumeral_iff, decide_eq_true_iff]

theorem mem_numerals_iff {group token : List Char} :
    token ∈ numerals group ↔ token ∈ tokens group ∧ IsNumeral token := by
  rw [numerals_eq, List.mem_filter, decide_eq_true_iff]

theorem usable_iff {group : List Char} :
    Usable group
      ↔ numerals group ≠ [] ∧ ∀ token ∈ numerals group, numeralValue token ≤ maxValue := by
  have hsome : numerals group ≠ [] ↔ ∃ token ∈ tokens group, IsNumeral token := by
    rw [ne_eq, List.eq_nil_iff_forall_not_mem]
    simp only [mem_numerals_iff, not_forall, not_not]
  rw [hsome]
  simp only [mem_numerals_iff, numeralValue_eq_decimal, and_imp]
  constructor
  · rintro ⟨hexists, hfits⟩
    exact ⟨hexists, hfits⟩
  · rintro ⟨hexists, hfits⟩
    exact ⟨hexists, hfits⟩

/-- A group gives its first numbers if it is usable, and nothing otherwise. -/
theorem sampleOf?_eq (group : List Char) [Decidable (Usable group)] :
    sampleOf? group = if Usable group then some (firstNumbers group) else none := by
  have hfirst : firstNumbers group = ((numerals group).map numeralValue).take maxSample := by
    rw [firstNumbers, ← numerals_eq, List.map_take]
    simp only [funext numeralValue_eq_decimal]
    rfl
  rw [sampleOf?, hfirst]
  by_cases husable : Usable group
  · obtain ⟨hne, hfits⟩ := usable_iff.mp husable
    have hempty : ((numerals group).map numeralValue).isEmpty = false := by
      simpa using hne
    have hall : ((numerals group).map numeralValue).all (· ≤ maxValue) = true := by
      simpa using hfits
    simp only [hempty, hall, if_pos husable, if_true, Bool.false_eq_true, if_false]
  · rw [if_neg husable]
    rw [usable_iff, not_and_or, not_not] at husable
    rcases husable with hnil | hgreat
    · rw [hnil]
      rfl
    · have hall : ((numerals group).map numeralValue).all (· ≤ maxValue) = false := by
        rw [← Bool.not_eq_true]
        simpa using hgreat
      simp only [hall, Bool.false_eq_true, if_false, ite_self]

/-- How many numbers a usable group gives, and how great they are. -/
theorem Usable.firstNumbers_bounds {group : List Char} (h : Usable group) :
    1 ≤ (firstNumbers group).length ∧ (firstNumbers group).length ≤ 6
      ∧ ∀ value ∈ firstNumbers group, value ≤ 2 ^ 63 - 1 := by
  have hlength : (firstNumbers group).length = min 6 (numerals group).length := by
    rw [firstNumbers, List.length_map, List.length_take, ← numerals_eq]
  have hsome : 0 < (numerals group).length := List.length_pos_iff.mpr (usable_iff.mp h).1
  refine ⟨by omega, by omega, fun value hvalue => ?_⟩
  obtain ⟨token, htoken, rfl⟩ := List.mem_map.mp hvalue
  obtain ⟨hmem, hnumeral⟩ := List.mem_filter.mp (List.mem_of_mem_take htoken)
  exact h.fits token hmem (of_decide_eq_true hnumeral)

/-! ## The first usable group -/

/-- The group is usable, and none that stands before it is. -/
def FirstUsable (opening closing : Char) (text group : List Char) : Prop :=
  ∃ place, GroupAt opening closing text place group ∧ Usable group
    ∧ ∀ earlier < place, ∀ other, GroupAt opening closing text earlier other → ¬ Usable other

/-- No group between the marks is usable. -/
def NoneUsable (opening closing : Char) (text : List Char) : Prop :=
  ∀ place group, GroupAt opening closing text place group → ¬ Usable group

section

variable {opening closing : Char} {text : List Char}

theorem FirstUsable.unique {group other : List Char}
    (h : FirstUsable opening closing text group) (h' : FirstUsable opening closing text other) :
    group = other := by
  obtain ⟨place, hgroup, husable, hfirst⟩ := h
  obtain ⟨place', hother, husable', hfirst'⟩ := h'
  have hplace : place = place' := by
    rcases Nat.lt_trichotomy place place' with hlt | heq | hlt
    · exact absurd husable (hfirst' place hlt group hgroup)
    · exact heq
    · exact absurd husable' (hfirst place' hlt other hother)
  subst hplace
  exact hgroup.inner_eq hother

theorem not_noneUsable_of_firstUsable {group : List Char}
    (h : FirstUsable opening closing text group) : ¬ NoneUsable opening closing text := by
  obtain ⟨place, hgroup, husable, -⟩ := h
  exact fun hnone => hnone place group hgroup husable

/-- The sample found among the groups is that of the first usable one in the
    text. -/
theorem findSome?_groups (hmarks : opening ≠ closing) (text : List Char) :
    (NoneUsable opening closing text ∧ (groups opening closing text).findSome? sampleOf? = none)
      ∨ ∃ group, FirstUsable opening closing text group
        ∧ (groups opening closing text).findSome? sampleOf? = some (firstNumbers group) := by
  classical
  obtain ⟨listed, hlists, hgroups⟩ := groups_listed hmarks text
  rw [← hgroups]
  cases hfound : (listed.map Prod.snd).findSome? sampleOf? with
  | none =>
      refine .inl ⟨fun place group hgroup husable => ?_, rfl⟩
      have hmem : group ∈ listed.map Prod.snd :=
        List.mem_map.mpr ⟨_, (hlists.mem_iff place group).mpr hgroup, rfl⟩
      have hnone := List.findSome?_eq_none_iff.mp hfound group hmem
      rw [sampleOf?_eq, if_pos husable] at hnone
      cases hnone
  | some values =>
      -- The list falls into the groups before the one that is used, that one, and the rest.
      obtain ⟨before, group, after, hsplit, hsample, hbefore⟩ :=
        List.findSome?_eq_some_iff.mp hfound
      obtain ⟨front, tail, rfl, hfront, htail⟩ := List.map_eq_append_iff.mp hsplit
      obtain ⟨⟨place, group⟩, back, rfl, rfl, -⟩ := List.map_eq_cons_iff.mp htail
      have husable : Usable group := by
        by_contra hnot
        rw [sampleOf?_eq, if_neg hnot] at hsample
        cases hsample
      rw [sampleOf?_eq, if_pos husable] at hsample
      obtain rfl := Option.some.inj hsample
      have hgroup : GroupAt opening closing text place group :=
        (hlists.mem_iff place group).mp (by simp)
      refine .inr ⟨group, ⟨place, hgroup, husable, ?_⟩, rfl⟩
      intro earlier hearlier other hother husable'
      have hmem := (hlists.mem_iff earlier other).mpr hother
      obtain ⟨-, hordered, -⟩ := List.pairwise_append.mp hlists.ordered
      have hin : (earlier, other) ∈ front := by
        rcases List.mem_append.mp hmem with hin | hin
        · exact hin
        · exfalso
          rcases List.mem_cons.mp hin with heq | hin
          · obtain rfl := (Prod.mk.inj heq).1
            omega
          · have hlt := (List.pairwise_cons.mp hordered).1 _ hin
            simp only at hlt
            omega
      have hnone := hbefore other (hfront ▸ List.mem_map.mpr ⟨_, hin, rfl⟩)
      rw [sampleOf?_eq, if_pos husable'] at hnone
      cases hnone

end

/-! ## Samples of arrays -/

/-- The values that an array is shown with.  A usable group in braces counts
    before one in brackets, and without either there are standard values. -/
inductive ArraySample (text : List Char) : List Nat → Prop where
  | braces {group : List Char} (h : FirstUsable '\x7b' '\x7d' text group) :
      ArraySample text (firstNumbers group)
  | brackets {group : List Char} (hbraces : NoneUsable '\x7b' '\x7d' text)
      (h : FirstUsable '[' ']' text group) : ArraySample text (firstNumbers group)
  | standard (hbraces : NoneUsable '\x7b' '\x7d' text) (hbrackets : NoneUsable '[' ']' text) :
      ArraySample text [64, 34, 25, 12, 22]

namespace ArraySample

variable {text : List Char} {values other : List Nat}

theorem unique (h : ArraySample text values) (h' : ArraySample text other) : values = other := by
  cases h with
  | braces h =>
      cases h' with
      | braces h' => rw [h.unique h']
      | brackets hbraces _ => exact absurd hbraces (not_noneUsable_of_firstUsable h)
      | standard hbraces _ => exact absurd hbraces (not_noneUsable_of_firstUsable h)
  | brackets hbraces h =>
      cases h' with
      | braces h' => exact absurd hbraces (not_noneUsable_of_firstUsable h')
      | brackets _ h' => rw [h.unique h']
      | standard _ hbrackets => exact absurd hbrackets (not_noneUsable_of_firstUsable h)
  | standard hbraces hbrackets =>
      cases h' with
      | braces h' => exact absurd hbraces (not_noneUsable_of_firstUsable h')
      | brackets _ h' => exact absurd hbrackets (not_noneUsable_of_firstUsable h')
      | standard _ _ => rfl

theorem bounds (h : ArraySample text values) :
    1 ≤ values.length ∧ values.length ≤ 6 ∧ ∀ value ∈ values, value ≤ 2 ^ 63 - 1 := by
  cases h with
  | braces h =>
      obtain ⟨-, -, husable, -⟩ := h
      exact husable.firstNumbers_bounds
  | brackets _ h =>
      obtain ⟨-, -, husable, -⟩ := h
      exact husable.firstNumbers_bounds
  | standard _ _ => decide

end ArraySample

/-- The sample of an array is what the groups of the text make it. -/
theorem exists_arraySample (text : List Char) :
    ∃ values, ArraySample text values
      ∧ StructureKind.sampleFrom text .array = .integers (values.map Int.ofNat) := by
  have hsearch : ofText? text
      = ((groups '\x7b' '\x7d' text).findSome? sampleOf?).or
          ((groups '[' ']' text).findSome? sampleOf?) := by
    rw [ofText?, List.findSome?_append]
  rcases findSome?_groups (by decide : '\x7b' ≠ '\x7d') text with
    ⟨hbraces, hnone⟩ | ⟨group, hfirst, hfound⟩
  · rcases findSome?_groups (by decide : '[' ≠ ']') text with
      ⟨hbrackets, hnone'⟩ | ⟨group, hfirst, hfound⟩
    · refine ⟨_, .standard hbraces hbrackets, ?_⟩
      rw [StructureKind.sampleFrom, hsearch, hnone, hnone']
      rfl
    · refine ⟨_, .brackets hbraces hfirst, ?_⟩
      rw [StructureKind.sampleFrom, hsearch, hnone, hfound]
      rfl
  · refine ⟨_, .braces hfirst, ?_⟩
    rw [StructureKind.sampleFrom, hsearch, hfound]
    rfl

end ArrayLiteral

/-! ## The structures of a text -/

namespace StructureSet

open ArrayLiteral (ArraySample exists_arraySample)

theorem standardSample_ne_empty (kind : StructureKind) : kind.standardSample.size ≠ 0 := by
  cases kind <;> decide

theorem sampleFrom_ne_empty (text : List Char) (kind : StructureKind) :
    (kind.sampleFrom text).size ≠ 0 := by
  cases kind with
  | array =>
      obtain ⟨values, hsample, hfrom⟩ := exists_arraySample text
      have hlength := hsample.bounds.1
      rw [hfrom, Sample.size, List.length_map]
      omega
  | linkedList => exact standardSample_ne_empty .linkedList
  | stack => exact standardSample_ne_empty .stack
  | queue => exact standardSample_ne_empty .queue
  | binaryTree => exact standardSample_ne_empty .binaryTree
  | hashTable => exact standardSample_ne_empty .hashTable

/-- Inserting one sample for each kind of a list changes just these kinds. -/
theorem get?_foldl_insert {sampleOf : StructureKind → Sample}
    (hne : ∀ kind, (sampleOf kind).size ≠ 0) (kinds : List StructureKind) (set : StructureSet)
    (kind : StructureKind) :
    (kinds.foldl (fun set k => set.insert k (sampleOf k)) set).get? kind
      = if kind ∈ kinds then some (sampleOf kind) else set.get? kind := by
  induction kinds generalizing set with
  | nil => rfl
  | cons first kinds ih =>
      rw [List.foldl_cons, ih, get?_insert set first (hne first)]
      by_cases hrest : kind ∈ kinds
      · rw [if_pos hrest, if_pos (List.mem_cons_of_mem _ hrest)]
      · rw [if_neg hrest]
        by_cases hfirst : kind = first
        · rw [if_pos hfirst, if_pos (hfirst ▸ List.mem_cons_self), hfirst]
        · rw [if_neg hfirst, if_neg (List.not_mem_cons_of_ne_of_not_mem hfirst hrest)]

/-- The set of a text holds the kinds that the text shows signs of, each with
    its sample. -/
theorem get?_ofText (text : List Char) (kind : StructureKind) :
    (ofText text).get? kind
      = if kind.shows text then some (kind.sampleFrom text) else none := by
  have hmem : kind ∈ StructureKind.all.filter (·.shows text) ↔ kind.shows text = true := by
    rw [List.mem_filter, and_iff_right (StructureKind.mem_all kind)]
  rw [ofText, get?_foldl_insert (sampleFrom_ne_empty text)]
  simp only [hmem]
  rfl

/-- The array of a text.  A text gets one exactly if it has an opening bracket
    or, in whatever case, the word `array`; its values are those of the first
    usable group in braces, failing that of the first one in brackets, or else
    the standard ones.  They are one to six, and none is too great. -/
theorem sample_of_array (text : List Char) :
    ∃ values : List Nat, (∀ other, ArraySample text other ↔ other = values)
      ∧ 1 ≤ values.length ∧ values.length ≤ 6 ∧ (∀ value ∈ values, value ≤ 2 ^ 63 - 1)
      ∧ (ofText text).get? .array
          = if '[' ∈ text ∨ "array".toList <:+: Unicode.lowerCase text
            then some (.integers (values.map Int.ofNat)) else none := by
  obtain ⟨values, hsample, hfrom⟩ := exists_arraySample text
  obtain ⟨hleast, hmost, hgreatest⟩ := hsample.bounds
  have hshows : StructureKind.array.shows text = true
      ↔ '[' ∈ text ∨ "array".toList <:+: Unicode.lowerCase text := by
    simp [StructureKind.shows, StructureKind.signs, Text.occurs_iff]
  refine ⟨values, fun other => ?_, hleast, hmost, hgreatest, ?_⟩
  · constructor
    · intro hother
      exact hother.unique hsample
    · rintro rfl
      exact hsample
  · rw [get?_ofText, hfrom]
    simp only [hshows]

end StructureSet

end SnippetScope
