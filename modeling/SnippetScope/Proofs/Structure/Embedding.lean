/-
  SnippetScope.Proofs.Structure.Embedding

  The kinds that a text shows signs of, and what becomes of them when the text
  gets neighbours.  A set lists the kinds shown in the order in which texts are
  examined for them (`kinds_ofText`); a sign stays one inside of a longer text
  (`shows_append`), so kinds may be added there but none is lost
  (`kinds_of_embedded`).
-/
import SnippetScope.Proofs.Structure.ArraySample
import SnippetScope.Proofs.Unicode.LowerCase

namespace SnippetScope

/-! ## Signs -/

namespace StructureKind

/-- A kind is shown by one of its words in whatever case, an array by an
    opening bracket as well. -/
theorem shows_iff {text : List Char} {kind : StructureKind} :
    kind.shows text = true ↔ (kind = array ∧ '[' ∈ text)
      ∨ ∃ word ∈ kind.signs, word.toList <:+: Unicode.lowerCase text := by
  simp only [shows, Bool.or_eq_true, Bool.and_eq_true, beq_iff_eq, List.contains_iff_mem,
    List.any_eq_true, Text.occurs_iff]

theorem sigmaFree_signs (kind : StructureKind) :
    ∀ word ∈ kind.signs, Unicode.SigmaFree word.toList := by
  cases kind <;> decide

/-- A sign is one inside of a longer text, too. -/
theorem shows_append {text : List Char} {kind : StructureKind} (h : kind.shows text = true)
    (before behind : List Char) : kind.shows (before ++ text ++ behind) = true := by
  rw [shows_iff] at h ⊢
  rcases h with ⟨hkind, hbracket⟩ | ⟨word, hsign, hword⟩
  · exact .inl ⟨hkind, List.mem_append_left behind (List.mem_append_right before hbracket)⟩
  · have hfree := sigmaFree_signs kind word hsign
    exact .inr ⟨word, hsign, Unicode.infix_lowerCase_append hfree hword before behind⟩

end StructureKind

/-! ## Kinds of a text -/

namespace StructureSet

open StructureKind (array linkedList stack queue binaryTree hashTable)

/-- New kinds come in one behind the other. -/
theorem kinds_foldl_insert {sampleOf : StructureKind → Sample}
    (hne : ∀ kind, (sampleOf kind).size ≠ 0) {kinds : List StructureKind} (hnodup : kinds.Nodup)
    {set : StructureSet} (hnew : ∀ kind ∈ kinds, kind ∉ set.kinds) :
    (kinds.foldl (fun set k => set.insert k (sampleOf k)) set).kinds = set.kinds ++ kinds := by
  induction kinds generalizing set with
  | nil => exact (List.append_nil set.kinds).symm
  | cons first kinds ih =>
      obtain ⟨hfirst, hnodup⟩ := List.nodup_cons.mp hnodup
      have hinsert : (set.insert first (sampleOf first)).kinds = set.kinds ++ [first] := by
        rw [kinds_insert set first (hne first), if_neg (hnew first List.mem_cons_self)]
      have hlater : ∀ kind ∈ kinds, kind ∉ (set.insert first (sampleOf first)).kinds := by
        intro kind hkind hmem
        rw [hinsert, List.mem_append, List.mem_singleton] at hmem
        rcases hmem with hmem | rfl
        · exact hnew kind (List.mem_cons_of_mem first hkind) hmem
        · exact hfirst hkind
      rw [List.foldl_cons, ih hnodup hlater, hinsert, List.append_assoc, List.singleton_append]

/-- The set of a text has the kinds that the text shows signs of, in the order
    of all kinds. -/
theorem kinds_ofText (text : List Char) :
    (ofText text).kinds = StructureKind.all.filter (·.shows text) := by
  have hnodup : (StructureKind.all.filter (·.shows text)).Nodup :=
    List.Nodup.filter _ (by decide)
  rw [ofText, kinds_foldl_insert (sampleFrom_ne_empty text) hnodup (by simp [kinds, empty])]
  rfl

/-- A text inside of a longer one keeps its kinds.  What is found is listed in
    one order for all texts, and a kind is found exactly if one of its words
    occurs in the lower-cased text or, for an array, an opening bracket. -/
theorem kinds_of_embedded (before text behind : List Char) :
    let inside := ofText text
    let whole := ofText (before ++ text ++ behind)
    (∀ kind, inside.contains kind = true → whole.contains kind = true)
      ∧ inside.kinds.Sublist whole.kinds
      ∧ whole.kinds.Sublist [array, linkedList, stack, queue, binaryTree, hashTable]
      ∧ inside.kinds.Sublist [array, linkedList, stack, queue, binaryTree, hashTable]
      ∧ ∀ kind, inside.contains kind = true ↔ (kind = array ∧ '[' ∈ text)
          ∨ ∃ word ∈ kind.signs, word.toList <:+: Unicode.lowerCase text := by
  intro inside whole
  have hinside : inside.kinds = StructureKind.all.filter (·.shows text) := kinds_ofText text
  have hwhole : whole.kinds = StructureKind.all.filter (·.shows (before ++ text ++ behind)) :=
    kinds_ofText (before ++ text ++ behind)
  have hkept : inside.kinds.Sublist whole.kinds := by
    rw [hinside, hwhole]
    apply List.monotone_filter_right
    intro kind hshows
    exact StructureKind.shows_append hshows before behind
  have hordered : whole.kinds.Sublist StructureKind.all := by
    rw [hwhole]
    exact List.filter_sublist
  refine ⟨fun kind hkind => ?_, hkept, hordered, hkept.trans hordered, fun kind => ?_⟩
  · have hmem : kind ∈ inside.kinds := mem_kinds_iff.mpr hkind
    exact mem_kinds_iff.mp (hkept.subset hmem)
  · have hmem : inside.contains kind = true ↔ kind ∈ inside.kinds := mem_kinds_iff.symm
    rw [hmem, hinside, List.mem_filter, and_iff_right (StructureKind.mem_all kind)]
    exact StructureKind.shows_iff

end StructureSet

end SnippetScope
