/-
  SnippetScope.Proofs.FilePath.Siblings

  Paths with another file name.  The path of the enclosing directory has the
  components of the path without the last one (`exists_parent`), so a path with
  another file name lies in the directory of the old one, or goes on from the
  path if that ends with no file name (`components_withFileName`).  File names
  and their stems have no slashes (`notMem_of_stem?`).
-/
import Mathlib.Data.List.DropRight
import Mathlib.Data.List.TakeDrop
import SnippetScope.Proofs.FilePath.Below

namespace SnippetScope.FilePath

open Text (splitAt)

/-- The components of the directory in which the path names a file.  A path
    that ends with no file name is that of a directory. -/
def directoryComponents (path : List Char) : List Component :=
  match fileName? path with
  | some _ => (components path).dropLast
  | none => components path

/-! ## Pieces without the last step -/

/-- The steps that pieces of a path stand for. -/
def stepsOf (pieces : List (List Char)) : List Component :=
  pieces.filterMap Component.ofPiece?

theorem components_eq_stepsOf (path : List Char) :
    components path = leading (splitAt '/' path) ++ stepsOf (splitAt '/' path) :=
  components_eq path

theorem named_notMem_leading (pieces : List (List Char)) (name : List Char) :
    .named name ∉ leading pieces := by
  unfold leading
  split <;> simp

theorem ofPiece?_eq_none_iff {piece : List Char} :
    Component.ofPiece? piece = none ↔ (piece.isEmpty || piece == ['.']) = true := by
  rw [Component.ofPiece?, Bool.or_eq_true, List.isEmpty_iff, beq_iff_eq]
  split
  · rename_i h
    exact iff_of_true rfl h
  · rename_i h
    split <;> exact iff_of_false (by simp) h

theorem dropIdle_concat (pieces : List (List Char)) (piece : List Char) :
    dropIdle (pieces ++ [piece])
      = if Component.ofPiece? piece = none then dropIdle pieces else pieces ++ [piece] := by
  simp only [ofPiece?_eq_none_iff]
  exact List.rdropWhile_concat _ _ _

theorem dropIdle_isPrefix (pieces : List (List Char)) : dropIdle pieces <+: pieces :=
  List.rdropWhile_prefix _ _

theorem dropLastStep?_of_dropIdle {pieces init : List (List Char)} {last : List Char}
    (h : dropIdle pieces = init ++ [last]) : dropLastStep? pieces = some (dropIdle init) := by
  rw [dropLastStep?, h]
  cases hpieces : init ++ [last] with
  | nil => simp at hpieces
  | cons first rest =>
      show some (dropIdle (first :: rest).dropLast) = _
      rw [← hpieces, List.dropLast_concat]

theorem stepsOf_concat (pieces : List (List Char)) (piece : List Char) :
    stepsOf (pieces ++ [piece]) = stepsOf pieces ++ (Component.ofPiece? piece).toList := by
  rw [stepsOf, List.filterMap_append, stepsOf]
  cases hpiece : Component.ofPiece? piece <;> simp [hpiece]

/-- Nothing is lost with the pieces that stay where they are. -/
theorem stepsOf_dropIdle (pieces : List (List Char)) :
    stepsOf (dropIdle pieces) = stepsOf pieces := by
  induction pieces using List.reverseRecOn with
  | nil => rfl
  | append_singleton pieces piece ih =>
      rw [dropIdle_concat]
      split
      · rename_i hidle
        rw [ih, stepsOf_concat, hidle, Option.toList_none, List.append_nil]
      · rfl

/-- Pieces that make a step still are pieces of the path when it is taken back. -/
theorem exists_dropLastStep {pieces : List (List Char)} {front : List Component}
    {last : Component} (h : stepsOf pieces = front ++ [last]) :
    ∃ left, dropLastStep? pieces = some left ∧ left <+: pieces ∧ stepsOf left = front := by
  -- By induction from the end: idle pieces there are passed over.
  induction pieces using List.reverseRecOn with
  | nil => simp [stepsOf] at h
  | append_singleton pieces piece ih =>
      rw [stepsOf_concat] at h
      cases hpiece : Component.ofPiece? piece with
      | none =>
          rw [hpiece, Option.toList_none, List.append_nil] at h
          obtain ⟨left, hleft, hstarts, hsteps⟩ := ih h
          refine ⟨left, ?_, hstarts.trans (List.prefix_append _ _), hsteps⟩
          rw [dropLastStep?, dropIdle_concat, if_pos hpiece, ← dropLastStep?, hleft]
      | some component =>
          rw [hpiece, Option.toList_some] at h
          obtain ⟨hfront, -⟩ := List.append_inj' h rfl
          have hidle : dropIdle (pieces ++ [piece]) = pieces ++ [piece] := by
            rw [dropIdle_concat, if_neg (by simp [hpiece])]
          exact ⟨dropIdle pieces, dropLastStep?_of_dropIdle hidle,
            (dropIdle_isPrefix pieces).trans (List.prefix_append _ _),
            (stepsOf_dropIdle pieces).trans hfront⟩

/-! ## The enclosing directory -/

variable {path name stem : List Char}

/-- A path that ends with a name has it as the last of its steps. -/
theorem exists_stepsOf (h : fileName? path = some name) :
    ∃ front, stepsOf (splitAt '/' path) = front ++ [.named name] := by
  have hlast : (components path).getLast? = some (.named name) := by
    rw [fileName?] at h
    split at h
    · rename_i hlast
      rw [hlast, Option.some.inj h]
    · cases h
  rw [components_eq_stepsOf, List.getLast?_append] at hlast
  cases hsteps : (stepsOf (splitAt '/' path)).getLast? with
  | none =>
      rw [hsteps, Option.none_or] at hlast
      exact absurd (List.mem_of_getLast? hlast) (named_notMem_leading _ name)
  | some last =>
      rw [hsteps, Option.some_or] at hlast
      rw [Option.some.inj hlast] at hsteps
      exact List.getLast?_eq_some_iff.mp hsteps

/-- Pieces without a slash are found again in the path that they make. -/
theorem splitAt_joinPieces {pieces : List (List Char)} (hne : pieces ≠ [])
    (h : ∀ piece ∈ pieces, '/' ∉ piece) : splitAt '/' (joinPieces pieces) = pieces :=
  Text.splitAt_intercalate hne h

theorem stepsOf_joinPieces {pieces : List (List Char)} (h : ∀ piece ∈ pieces, '/' ∉ piece) :
    stepsOf (splitAt '/' (joinPieces pieces)) = stepsOf pieces := by
  by_cases hne : pieces = []
  · rw [hne]
    rfl
  · rw [splitAt_joinPieces hne h]

theorem slash_notMem_of_splitAt {pieces : List (List Char)} {piece : List Char}
    (hsplit : splitAt '/' path = pieces) (h : piece ∈ pieces) : '/' ∉ piece :=
  Text.not_mem_of_mem_splitAt (hsplit ▸ h)

section Parents

variable {rest : List (List Char)} {front : List Component} {last : Component}

theorem exists_parent_of_root (hsplit : splitAt '/' path = [] :: rest)
    (h : stepsOf rest = front ++ [last]) :
    ∃ directory, parent? path = some directory ∧ components directory = .root :: front := by
  obtain ⟨left, hleft, hstarts, rfl⟩ := exists_dropLastStep h
  obtain ⟨next, more, rfl⟩ : ∃ next more, rest = next :: more := by
    refine List.exists_cons_of_ne_nil ?_
    rintro rfl
    simp [dropLastStep?, dropIdle] at hleft
  have hslash : ∀ piece ∈ left, '/' ∉ piece := by
    intro piece hpiece
    refine slash_notMem_of_splitAt hsplit ?_
    exact List.mem_cons_of_mem _ (hstarts.subset hpiece)
  refine ⟨'/' :: joinPieces left, by simp [parent?, hsplit, hleft], ?_⟩
  -- However few pieces are left, they come behind the empty one of the root.
  obtain ⟨piece, more', hjoined⟩ :=
    List.exists_cons_of_ne_nil (Text.splitAt_ne_nil '/' (joinPieces left))
  rw [components_eq_stepsOf, Text.splitAt_cons_sep, ← stepsOf_joinPieces hslash, hjoined]
  rfl

theorem exists_parent_of_here (hsplit : splitAt '/' path = ['.'] :: rest)
    (h : stepsOf rest = front ++ [last]) :
    ∃ directory, parent? path = some directory ∧ components directory = .here :: front := by
  obtain ⟨left, hleft, hstarts, rfl⟩ := exists_dropLastStep h
  have hslash : ∀ piece ∈ ['.'] :: left, '/' ∉ piece := by
    intro piece hpiece
    refine slash_notMem_of_splitAt hsplit ?_
    exact (List.cons_prefix_cons.mpr ⟨rfl, hstarts⟩).subset hpiece
  refine ⟨joinPieces (['.'] :: left), by simp [parent?, hsplit, hleft], ?_⟩
  rw [components_eq_stepsOf, splitAt_joinPieces (by simp) hslash]
  rfl

theorem exists_parent_of_step {first : List Char} (hsplit : splitAt '/' path = first :: rest)
    (hroot : first ≠ []) (hhere : first ≠ ['.']) (h : stepsOf (first :: rest) = front ++ [last]) :
    ∃ directory, parent? path = some directory ∧ components directory = front := by
  obtain ⟨left, hleft, hstarts, rfl⟩ := exists_dropLastStep h
  have hslash : ∀ piece ∈ left, '/' ∉ piece := by
    intro piece hpiece
    refine slash_notMem_of_splitAt hsplit ?_
    exact hstarts.subset hpiece
  refine ⟨joinPieces left, by simp [parent?, hsplit, hleft, hroot, hhere], ?_⟩
  rw [components_eq_stepsOf, stepsOf_joinPieces hslash]
  cases left with
  | nil => rfl
  | cons piece left =>
      -- The first piece is still the same, so nothing leads the steps.
      obtain ⟨rfl, -⟩ := List.cons_prefix_cons.mp hstarts
      rw [splitAt_joinPieces (by simp) hslash]
      simp [leading, hroot, hhere]

end Parents

/-- A path that ends with a name has an enclosing directory, whose path has all
    components but that one. -/
theorem exists_parent (h : fileName? path = some name) :
    ∃ directory, parent? path = some directory
      ∧ components path = components directory ++ [.named name] := by
  obtain ⟨front, hfront⟩ := exists_stepsOf h
  obtain ⟨first, rest, hsplit⟩ := List.exists_cons_of_ne_nil (Text.splitAt_ne_nil '/' path)
  rw [hsplit] at hfront
  rw [components_eq_stepsOf, hsplit, hfront]
  by_cases hroot : first = []
  · subst hroot
    have hrest : stepsOf rest = front ++ [.named name] := hfront
    obtain ⟨directory, hparent, hdirectory⟩ := exists_parent_of_root hsplit hrest
    refine ⟨directory, hparent, ?_⟩
    obtain ⟨next, more, rfl⟩ : ∃ next more, rest = next :: more := by
      refine List.exists_cons_of_ne_nil ?_
      rintro rfl
      simp [stepsOf] at hrest
    rw [hdirectory]
    rfl
  by_cases hhere : first = ['.']
  · subst hhere
    have hrest : stepsOf rest = front ++ [.named name] := hfront
    obtain ⟨directory, hparent, hdirectory⟩ := exists_parent_of_here hsplit hrest
    refine ⟨directory, hparent, ?_⟩
    rw [hdirectory]
    rfl
  · obtain ⟨directory, hparent, hdirectory⟩ := exists_parent_of_step hsplit hroot hhere hfront
    refine ⟨directory, hparent, ?_⟩
    simp [hdirectory, leading, hroot, hhere]

/-- A name in place of the last one leads on from the enclosing directory; so
    do further pieces after a name that goes somewhere. -/
theorem components_withFileName {piece : List Char} {pieces : List (List Char)}
    (hname : splitAt '/' name = piece :: pieces) (hsome : piece ≠ []) (hhere : piece ≠ ['.']) :
    components (withFileName path name) = directoryComponents path ++ components name := by
  have hjoin : ∀ directory, components (join directory name)
      = components directory ++ components name := by
    intro directory
    by_cases hempty : directory = []
    · subst hempty
      rw [join, isAbsolute_of_splitAt hname hsome]
      rfl
    · exact components_join_of_splitAt hempty hname hsome hhere
  cases hfile : fileName? path with
  | none => simp only [withFileName, directoryComponents, hfile, hjoin]
  | some last =>
      obtain ⟨directory, hparent, hcomponents⟩ := exists_parent hfile
      simp only [withFileName, directoryComponents, hfile, hparent, hjoin, hcomponents,
        List.dropLast_concat]

/-! ## Stems -/

theorem cutExtension_isPrefix (name : List Char) : (cutExtension name).1 <+: name := by
  rw [cutExtension, List.span_eq_takeWhile_dropWhile]
  split
  · rename_i tail dot head hcut
    have hdrop : name.reverse.dropWhile (· != '.') = dot :: head := (Prod.mk.inj hcut).2
    split
    · exact List.prefix_refl name
    · have hhead : head <:+ name.reverse :=
        (List.suffix_cons dot head).trans (hdrop ▸ List.dropWhile_suffix _)
      simpa using List.reverse_prefix.mpr hhead
  · exact List.prefix_refl name

theorem notMem_of_fileName? (h : fileName? path = some name) : '/' ∉ name := by
  obtain ⟨front, hfront⟩ := exists_stepsOf h
  have hmem : .named name ∈ stepsOf (splitAt '/' path) := by
    rw [hfront]
    exact List.mem_append_right _ List.mem_cons_self
  obtain ⟨piece, hpiece, hnamed⟩ := List.mem_filterMap.mp hmem
  have hsame : piece = name := by
    rw [Component.ofPiece?] at hnamed
    split at hnamed
    · cases hnamed
    · split at hnamed
      · cases hnamed
      · exact Component.named.inj (Option.some.inj hnamed)
  exact hsame ▸ Text.not_mem_of_mem_splitAt hpiece

theorem notMem_of_stem? (h : stem? path = some stem) : '/' ∉ stem := by
  obtain ⟨name, hname, rfl⟩ := Option.map_eq_some_iff.mp h
  exact fun hslash => notMem_of_fileName? hname ((cutExtension_isPrefix name).subset hslash)

/-! ## Where a path with another file name leads -/

theorem exists_steps_withFileName (path : List Char) (hname : ProperName name) :
    ∃ front, FileTree.steps (withFileName path name) = front ++ [name] := by
  obtain ⟨directory, hdirectory⟩ : ∃ directory, withFileName path name = join directory name := by
    rw [withFileName]
    split <;> exact ⟨_, rfl⟩
  rw [hdirectory]
  by_cases hempty : directory = []
  · subst hempty
    refine ⟨[], ?_⟩
    have hlast : name.getLast? ≠ some '/' := fun h => hname.no_slash (List.mem_of_getLast? h)
    simp [join, hname.isAbsolute_eq_false, FileTree.steps, Text.splitAt_of_not_mem hname.no_slash,
      hname.ne_nil, hlast]
  · have hsteps := steps_below hempty (List.forall_mem_singleton.mpr hname) (List.cons_ne_nil name [])
    exact ⟨namedPieces directory, hsteps⟩

end SnippetScope.FilePath
