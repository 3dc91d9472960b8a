/-
  SnippetScope.Proofs.Structure.Inserts

  Sets of structures as the outcome of the inserts that led to them.  An insert
  leaves every kind that is there in its place and changes no sample but that
  of its own kind (`kinds_insert`, `get?_insert`).  A set therefore lists its
  kinds in the order in which they first came in, each with the sample that
  came in last (`insertAll_history`).
-/
import SnippetScope.Structure
import Mathlib.Data.List.Induction
import Mathlib.Data.List.Nodup

namespace SnippetScope

theorem StructureKind.mem_all (kind : StructureKind) : kind ∈ all := by
  cases kind <;> decide

namespace StructureSet

/-! ## One insert -/

section Put

variable (kind : StructureKind) (sample : Sample)

/-- A kind that is there stays in its place, and a new one comes last. -/
theorem map_kind_put (entries : List SampledStructure) :
    (put kind sample entries).map (·.kind)
      = if kind ∈ entries.map (·.kind) then entries.map (·.kind)
        else entries.map (·.kind) ++ [kind] := by
  induction entries with
  | nil => rfl
  | cons e rest ih =>
      rw [put]
      -- The first entry of the kind is replaced; without one in front, the rest decides.
      by_cases he : e.kind = kind
      · rw [if_pos he, if_pos (by rw [List.map_cons, he]; exact List.mem_cons_self)]
        rw [List.map_cons, List.map_cons, he]
      · have hmem : kind ∈ (e :: rest).map (·.kind) ↔ kind ∈ rest.map (·.kind) := by
          rw [List.map_cons, List.mem_cons, or_iff_right (Ne.symm he)]
        rw [if_neg he, List.map_cons, ih]
        split
        · rename_i hrest
          rw [if_pos (hmem.mpr hrest), List.map_cons]
        · rename_i hrest
          rw [if_neg (mt hmem.mp hrest), List.map_cons, List.cons_append]

/-- The sample of the kind is the new one, and that of any other kind the old one. -/
theorem find?_put (entries : List SampledStructure) (other : StructureKind) :
    (put kind sample entries).find? (·.kind = other)
      = if other = kind then some ⟨kind, sample⟩ else entries.find? (·.kind = other) := by
  induction entries with
  | nil =>
      rw [put, List.find?_singleton]
      by_cases h : other = kind
      · simp [h]
      · simp [h, Ne.symm h]
  | cons e rest ih =>
      rw [put]
      by_cases he : e.kind = kind
      · by_cases h : other = kind
        · simp [he, h]
        · simp [he, h, Ne.symm h]
      · by_cases h : e.kind = other
        · have hother : other ≠ kind := fun heq => he (h.trans heq)
          simp [h, hother]
        · simp [he, h, ih]

theorem eq_or_mem_of_mem_put {entries : List SampledStructure} {e : SampledStructure}
    (h : e ∈ put kind sample entries) : e = ⟨kind, sample⟩ ∨ e ∈ entries := by
  induction entries with
  | nil => exact .inl (List.mem_singleton.mp h)
  | cons first rest ih =>
      rw [put] at h
      split at h
      · rcases List.mem_cons.mp h with rfl | h
        · exact .inl rfl
        · exact .inr (List.mem_cons_of_mem _ h)
      · rcases List.mem_cons.mp h with rfl | h
        · exact .inr List.mem_cons_self
        · exact (ih h).imp_right (List.mem_cons_of_mem _)

end Put

section Insert

variable {set : StructureSet} {kind : StructureKind} {sample : Sample}

theorem insert_of_empty (set : StructureSet) (kind : StructureKind) (h : sample.size = 0) :
    set.insert kind sample = set :=
  if_pos h

theorem kinds_insert (set : StructureSet) (kind : StructureKind) (h : sample.size ≠ 0) :
    (set.insert kind sample).kinds
      = if kind ∈ set.kinds then set.kinds else set.kinds ++ [kind] := by
  rw [insert, if_neg h]
  exact map_kind_put kind sample set.entries

theorem get?_insert (set : StructureSet) (kind : StructureKind) (h : sample.size ≠ 0)
    (other : StructureKind) :
    (set.insert kind sample).get? other = if other = kind then some sample else set.get? other := by
  rw [insert, if_neg h, get?, find?_put]
  by_cases hother : other = kind
  · rw [if_pos hother, if_pos hother, Option.map_some]
  · rw [if_neg hother, if_neg hother, get?]

/-- A kind that is there is not moved, whatever is inserted for it. -/
theorem kinds_insert_of_mem (h : kind ∈ set.kinds) (sample : Sample) :
    (set.insert kind sample).kinds = set.kinds := by
  by_cases hsample : sample.size = 0
  · rw [insert_of_empty set kind hsample]
  · rw [kinds_insert set kind hsample, if_pos h]

theorem mem_kinds_iff : kind ∈ set.kinds ↔ (set.get? kind).isSome = true := by
  rw [kinds, List.mem_map, get?, Option.isSome_map, List.find?_isSome]
  simp

/-- In a set without repeated kinds, each entry is what is found for its kind. -/
theorem get?_of_mem_entries (hdistinct : set.kinds.Nodup) {e : SampledStructure}
    (he : e ∈ set.entries) : set.get? e.kind = some e.sample := by
  cases hfind : set.entries.find? (·.kind = e.kind) with
  | none =>
      have hnone := List.find?_eq_none.mp hfind e he
      simp at hnone
  | some found =>
      have hkind : found.kind = e.kind := by simpa using List.find?_some hfind
      have hsame : found = e :=
        List.inj_on_of_nodup_map hdistinct (List.mem_of_find?_eq_some hfind) he hkind
      rw [get?, hfind, hsame, Option.map_some]

end Insert

/-! ## Histories -/

/-- The insert is for the kind, and its sample is not empty. -/
def offers (kind : StructureKind) (i : SampledStructure) : Bool :=
  i.kind = kind && i.sample.size ≠ 0

theorem offers_iff {kind : StructureKind} {i : SampledStructure} :
    offers kind i = true ↔ i.kind = kind ∧ i.sample.size ≠ 0 := by
  rw [offers, Bool.and_eq_true, decide_eq_true_eq, decide_eq_true_eq]

/-- The place of the first non-empty sample of the kind among the inserts. -/
def firstPlace (kind : StructureKind) (inserts : List SampledStructure) : Nat :=
  inserts.findIdx (offers kind)

/-- The last non-empty sample of the kind among the inserts. -/
def lastSample? (kind : StructureKind) (inserts : List SampledStructure) : Option Sample :=
  (inserts.filter (offers kind)).getLast?.map (·.sample)

/-- The set after inserts, one after the other, into an empty one. -/
def insertAll (inserts : List SampledStructure) : StructureSet :=
  inserts.foldl (fun set i => set.insert i.kind i.sample) empty

section

variable {inserts : List SampledStructure} {i : SampledStructure} {kind : StructureKind}

theorem insertAll_concat (inserts : List SampledStructure) (i : SampledStructure) :
    insertAll (inserts ++ [i]) = (insertAll inserts).insert i.kind i.sample := by
  rw [insertAll, List.foldl_append]
  rfl

theorem lastSample?_eq_none_iff :
    lastSample? kind inserts = none ↔ ∀ i ∈ inserts, i.kind = kind → i.sample.size = 0 := by
  rw [lastSample?, Option.map_eq_none_iff, List.getLast?_eq_none_iff, List.filter_eq_nil_iff]
  refine forall₂_congr fun i _ => ?_
  rw [offers_iff, not_and_not_right]

theorem lastSample?_isSome_iff :
    (lastSample? kind inserts).isSome = true
      ↔ ∃ i ∈ inserts, i.kind = kind ∧ i.sample.size ≠ 0 := by
  rw [Option.isSome_iff_ne_none, ne_eq, lastSample?_eq_none_iff]
  simp only [not_forall, exists_prop]

theorem lastSample?_concat_of_offers (h : offers kind i = true) (inserts : List SampledStructure) :
    lastSample? kind (inserts ++ [i]) = some i.sample := by
  rw [lastSample?, List.filter_append, List.filter_cons_of_pos h, List.filter_nil,
    List.getLast?_concat, Option.map_some]

theorem lastSample?_concat_of_not_offers (h : offers kind i = false)
    (inserts : List SampledStructure) :
    lastSample? kind (inserts ++ [i]) = lastSample? kind inserts := by
  have hnone : [i].filter (offers kind) = [] := by simp [h]
  rw [lastSample?, List.filter_append, hnone, List.append_nil, lastSample?]

theorem firstPlace_lt_length_iff :
    firstPlace kind inserts < inserts.length ↔ (lastSample? kind inserts).isSome = true := by
  rw [firstPlace, List.findIdx_lt_length, lastSample?_isSome_iff]
  simp only [offers_iff]

/-- A kind that has come in keeps its first place. -/
theorem firstPlace_concat_of_isSome (h : (lastSample? kind inserts).isSome = true)
    (i : SampledStructure) : firstPlace kind (inserts ++ [i]) = firstPlace kind inserts := by
  rw [firstPlace, List.findIdx_append]
  exact if_pos (firstPlace_lt_length_iff.mpr h)

/-- A kind that comes in now does so at the last place. -/
theorem firstPlace_concat_of_none (h : lastSample? kind inserts = none)
    (hoffers : offers kind i = true) : firstPlace kind (inserts ++ [i]) = inserts.length := by
  have hnot : ¬ firstPlace kind inserts < inserts.length := by
    rw [firstPlace_lt_length_iff, h]
    exact Bool.false_ne_true
  rw [firstPlace, List.findIdx_append]
  rw [firstPlace] at hnot
  rw [if_neg hnot, List.findIdx_cons, hoffers]
  simp

end

/-! ## Runs of inserts -/

/-- The set is what the inserts amount to. -/
structure OutcomeOf (inserts : List SampledStructure) (set : StructureSet) : Prop where
  nonEmpty : ∀ e ∈ set.entries, e.sample.size ≠ 0
  latest : ∀ kind, set.get? kind = lastSample? kind inserts
  ordered : set.kinds.Pairwise fun a b => firstPlace a inserts < firstPlace b inserts

namespace OutcomeOf

variable {inserts : List SampledStructure} {set : StructureSet}

theorem nothing : OutcomeOf [] empty where
  nonEmpty := List.forall_mem_nil _
  latest _ := rfl
  ordered := .nil

theorem mem_kinds_iff (h : OutcomeOf inserts set) {kind : StructureKind} :
    kind ∈ set.kinds ↔ (lastSample? kind inserts).isSome = true := by
  rw [StructureSet.mem_kinds_iff, h.latest]

theorem nodup_kinds (h : OutcomeOf inserts set) : set.kinds.Nodup :=
  h.ordered.imp fun hlt heq => absurd hlt (by rw [heq]; exact Nat.lt_irrefl _)

theorem ordered_concat (h : OutcomeOf inserts set) (i : SampledStructure) :
    set.kinds.Pairwise fun a b =>
      firstPlace a (inserts ++ [i]) < firstPlace b (inserts ++ [i]) := by
  refine h.ordered.imp_of_mem fun ha hb hlt => ?_
  rw [firstPlace_concat_of_isSome (h.mem_kinds_iff.mp ha),
    firstPlace_concat_of_isSome (h.mem_kinds_iff.mp hb)]
  exact hlt

/-- An empty sample leaves no trace, neither in the set nor in the history. -/
theorem insert_of_empty (h : OutcomeOf inserts set) {i : SampledStructure}
    (hi : i.sample.size = 0) : OutcomeOf (inserts ++ [i]) (set.insert i.kind i.sample) := by
  rw [StructureSet.insert_of_empty set i.kind hi]
  refine ⟨h.nonEmpty, fun kind => ?_, h.ordered_concat i⟩
  have hoffers : offers kind i = false := by
    rw [← Bool.not_eq_true, offers_iff]
    exact fun ⟨_, hne⟩ => hne hi
  rw [h.latest, lastSample?_concat_of_not_offers hoffers]

theorem insert_of_nonEmpty (h : OutcomeOf inserts set) {i : SampledStructure}
    (hi : i.sample.size ≠ 0) : OutcomeOf (inserts ++ [i]) (set.insert i.kind i.sample) := by
  have hoffers : offers i.kind i = true := offers_iff.mpr ⟨rfl, hi⟩
  refine ⟨fun e he => ?_, fun kind => ?_, ?_⟩
  · -- Every entry is the new one or was there before.
    rw [insert, if_neg hi] at he
    rcases eq_or_mem_of_mem_put i.kind i.sample he with rfl | he
    · exact hi
    · exact h.nonEmpty e he
  · -- The kind of the insert has its sample, and any other kind what it had.
    rw [get?_insert set i.kind hi]
    split
    · rename_i hkind
      rw [hkind, lastSample?_concat_of_offers hoffers]
    · rename_i hkind
      have hother : offers kind i = false := by
        rw [← Bool.not_eq_true, offers_iff]
        exact fun ⟨heq, _⟩ => hkind heq.symm
      rw [h.latest, lastSample?_concat_of_not_offers hother]
  · rw [kinds_insert set i.kind hi]
    split
    · exact h.ordered_concat i
    · -- The new kind comes in behind all the others.
      rename_i hnew
      have hnone : lastSample? i.kind inserts = none := by
        rw [h.mem_kinds_iff, Option.not_isSome_iff_eq_none] at hnew
        exact hnew
      refine List.pairwise_append.mpr
        ⟨h.ordered_concat i, List.pairwise_singleton _ _, fun a ha b hb => ?_⟩
      rw [List.mem_singleton.mp hb, firstPlace_concat_of_none hnone hoffers]
      have ha := h.mem_kinds_iff.mp ha
      rw [firstPlace_concat_of_isSome ha]
      exact firstPlace_lt_length_iff.mpr ha

theorem insertAll (inserts : List SampledStructure) :
    OutcomeOf inserts (StructureSet.insertAll inserts) := by
  -- The last insert is made into what all before it led to.
  induction inserts using List.reverseRecOn with
  | nil => exact nothing
  | append_singleton inserts i ih =>
      rw [insertAll_concat]
      by_cases hi : i.sample.size = 0
      · exact ih.insert_of_empty hi
      · exact ih.insert_of_nonEmpty hi

end OutcomeOf

/-! ## What a set tells of its history -/

namespace OutcomeOf

variable {inserts : List SampledStructure} {set : StructureSet}

/-- Each entry is that of a kind with the sample that came in last. -/
theorem entries_eq (h : OutcomeOf inserts set) :
    set.entries.map (fun e => (e.kind, some e.sample))
      = set.kinds.map fun kind => (kind, lastSample? kind inserts) := by
  rw [kinds, List.map_map]
  refine List.map_congr_left fun e he => ?_
  rw [Function.comp_apply, ← h.latest, get?_of_mem_entries h.nodup_kinds he]

/-- There are as many entries as kinds for which something came in. -/
theorem size_eq (h : OutcomeOf inserts set) :
    set.size = StructureKind.all.countP fun kind => inserts.any (offers kind) := by
  -- Both list the kinds that came in, without repeats, though in different orders.
  have hperm : set.kinds.Perm (StructureKind.all.filter fun kind => inserts.any (offers kind)) := by
    rw [List.perm_ext_iff_of_nodup h.nodup_kinds (List.Nodup.filter _ (by decide))]
    intro kind
    rw [h.mem_kinds_iff, lastSample?_isSome_iff, List.mem_filter, and_iff_right (StructureKind.mem_all kind),
      List.any_eq_true]
    simp only [offers_iff]
  rw [size, ← List.length_map (fun e => e.kind), ← kinds, hperm.length_eq, List.countP_eq_length_filter]

theorem isEmpty_iff (h : OutcomeOf inserts set) :
    set.isEmpty = true ↔ ∀ i ∈ inserts, i.sample.size = 0 := by
  have hkinds : set.isEmpty = true ↔ ∀ kind, kind ∉ set.kinds := by
    rw [← List.eq_nil_iff_forall_not_mem, kinds, List.map_eq_nil_iff, isEmpty, List.isEmpty_iff]
  rw [hkinds]
  simp only [h.mem_kinds_iff, Option.not_isSome_iff_eq_none, lastSample?_eq_none_iff]
  exact ⟨fun hall i hi => hall i.kind i hi rfl, fun hall _ i hi _ => hall i hi⟩

end OutcomeOf

/-- What is known of a set after any number of inserts.  Its kinds are those
    for which a non-empty sample came in, in the order in which this first
    happened and without repeats, and each has the sample that came in last.
    An empty sample changes nothing, and no insert moves a kind.  The inserts
    up to some step are inserts as well, so this holds at every step. -/
theorem insertAll_history (inserts : List SampledStructure) :
    let set := insertAll inserts
    set.kinds.Nodup
      ∧ (∀ e ∈ set.entries, e.sample.size ≠ 0)
      ∧ set.kinds.Pairwise (fun a b => firstPlace a inserts < firstPlace b inserts)
      ∧ (∀ kind, kind ∈ set.kinds ↔ ∃ i ∈ inserts, i.kind = kind ∧ i.sample.size ≠ 0)
      ∧ (∀ kind, set.get? kind = lastSample? kind inserts)
      ∧ (∀ kind, set.get? kind = none ↔ ∀ i ∈ inserts, i.kind = kind → i.sample.size = 0)
      ∧ (∀ kind, set.contains kind = true ↔ ∃ i ∈ inserts, i.kind = kind ∧ i.sample.size ≠ 0)
      ∧ set.entries.map (fun e => (e.kind, some e.sample))
          = set.kinds.map (fun kind => (kind, lastSample? kind inserts))
      ∧ set.size = StructureKind.all.countP (fun kind => inserts.any (offers kind))
      ∧ (set.isEmpty = true ↔ ∀ i ∈ inserts, i.sample.size = 0)
      ∧ (∀ kind sample, sample.size = 0 → insertAll (inserts ++ [⟨kind, sample⟩]) = set)
      ∧ ∀ kind sample, set.contains kind = true →
          (insertAll (inserts ++ [⟨kind, sample⟩])).kinds = set.kinds := by
  intro set
  have h : OutcomeOf inserts set := OutcomeOf.insertAll inserts
  have hnone (kind : StructureKind) :
      set.get? kind = none ↔ ∀ i ∈ inserts, i.kind = kind → i.sample.size = 0 := by
    rw [h.latest, lastSample?_eq_none_iff]
  have hsome (kind : StructureKind) :
      (set.get? kind).isSome = true ↔ ∃ i ∈ inserts, i.kind = kind ∧ i.sample.size ≠ 0 := by
    rw [h.latest, lastSample?_isSome_iff]
  refine ⟨h.nodup_kinds, h.nonEmpty, h.ordered, fun kind => ?_, h.latest, hnone, hsome,
    h.entries_eq, h.size_eq, h.isEmpty_iff, fun kind sample hsample => ?_,
    fun kind sample hkind => ?_⟩
  · rw [mem_kinds_iff, hsome]
  · rw [insertAll_concat, insert_of_empty _ kind hsample]
  · rw [insertAll_concat]
    exact kinds_insert_of_mem (mem_kinds_iff.mpr hkind) sample

end StructureSet

end SnippetScope
