/-
  SnippetScope.Proofs.FilePath.Below

  Paths of entries below a directory.  Whatever the directory's path looks
  like, with slashes at its end or dots in it, a name joined to it becomes its
  last piece, and so the last component and the last step of the new path.
-/
import SnippetScope.FileTree.Route
import SnippetScope.Proofs.Text.Lines
import Mathlib.Data.List.Induction

namespace SnippetScope.FilePath

open Text (splitAt)

/-- A name that an entry of a directory can have. -/
structure ProperName (name : List Char) : Prop where
  ne_nil : name ≠ []
  no_slash : '/' ∉ name
  ne_here : name ≠ ['.']
  ne_parent : name ≠ ['.', '.']

instance (name : List Char) : Decidable (ProperName name) :=
  decidable_of_iff (name ≠ [] ∧ '/' ∉ name ∧ name ≠ ['.'] ∧ name ≠ ['.', '.'])
    ⟨fun h => ⟨h.1, h.2.1, h.2.2.1, h.2.2.2⟩,
      fun h => ⟨h.ne_nil, h.no_slash, h.ne_here, h.ne_parent⟩⟩

/-- The pieces of a path that are not empty. -/
def namedPieces (path : List Char) : List (List Char) :=
  (splitAt '/' path).filter (!·.isEmpty)

variable {path name : List Char}

/-! ## One name -/

theorem ProperName.isAbsolute_eq_false (h : ProperName name) : isAbsolute name = false := by
  obtain ⟨c, rest, rfl⟩ := List.exists_cons_of_ne_nil h.ne_nil
  have hc : c ≠ '/' := fun hc => h.no_slash (by simp [hc])
  simpa [isAbsolute] using hc

theorem ProperName.ofPiece_eq (h : ProperName name) :
    Component.ofPiece? name = some (.named name) := by
  simp [Component.ofPiece?, h.ne_nil, h.ne_here, h.ne_parent]

/-- A path is cut into pieces, the last of which may be empty; the pieces of a
    path joined to it come after them, in place of the empty one. -/
theorem exists_pieces_join (hpath : path ≠ []) (hname : isAbsolute name = false) :
    ∃ pieces, pieces ≠ []
      ∧ ((splitAt '/' path = pieces ∧ pieces ≠ [[]]) ∨ splitAt '/' path = pieces ++ [[]])
      ∧ splitAt '/' (join path name) = pieces ++ splitAt '/' name := by
  by_cases hslash : path.getLast? = some '/'
  · -- A slash at the end leaves an empty last piece, which the name fills.
    obtain ⟨front, rfl⟩ := List.getLast?_eq_some_iff.mp hslash
    refine ⟨splitAt '/' front, Text.splitAt_ne_nil _ _, .inr (Text.splitAt_append_sep front []), ?_⟩
    have hjoin : join (front ++ ['/']) name = front ++ '/' :: name := by
      simp [join, hname]
    rw [hjoin, Text.splitAt_append_sep]
  · refine ⟨splitAt '/' path, Text.splitAt_ne_nil _ _, .inl ⟨rfl, fun hnil => ?_⟩, ?_⟩
    · rcases Text.not_mem_or_exists_first '/' path with h | ⟨line, rest, hline, rfl⟩
      · rw [Text.splitAt_of_not_mem h] at hnil
        exact hpath (List.cons.inj hnil).1
      · rw [Text.splitAt_append hline] at hnil
        exact Text.splitAt_ne_nil _ _ (List.cons.inj hnil).2
    · have hjoin : join path name = path ++ '/' :: name := by
        simp [join, hname, hpath, hslash]
      rw [hjoin, Text.splitAt_append_sep]

theorem join_ne_nil (hpath : path ≠ []) (name : List Char) : join path name ≠ [] := by
  rw [join]
  split
  · rename_i h
    rintro rfl
    simp [isAbsolute] at h
  · split <;> simp [hpath]

theorem isAbsolute_join (hpath : path ≠ []) (hname : ProperName name) :
    isAbsolute (join path name) = isAbsolute path := by
  obtain ⟨c, rest, rfl⟩ := List.exists_cons_of_ne_nil hpath
  rw [join, hname.isAbsolute_eq_false]
  simp only [Bool.false_eq_true, if_false]
  split <;> rfl

theorem getLast_join (hname : ProperName name) : (join path name).getLast? ≠ some '/' := by
  have hlast : name.getLast? ≠ some '/' := fun h => hname.no_slash (List.mem_of_getLast? h)
  obtain ⟨front, hfront⟩ : ∃ front, join path name = front ++ name := by
    rw [join, hname.isAbsolute_eq_false]
    simp only [Bool.false_eq_true, if_false]
    split
    · exact ⟨path, rfl⟩
    · exact ⟨path ++ ['/'], by simp⟩
  obtain ⟨c, hc⟩ := Option.ne_none_iff_exists'.mp (List.getLast?_eq_none_iff.not.mpr hname.ne_nil)
  rw [hc] at hlast
  rw [hfront, List.getLast?_append, hc]
  simpa using hlast

theorem slash_mem_join (hpath : path ≠ []) (hname : ProperName name) : '/' ∈ join path name := by
  rw [join, hname.isAbsolute_eq_false]
  simp only [Bool.false_eq_true, if_false]
  split
  · rename_i h
    have hlast : path.getLast? = some '/' := by simpa [hpath] using h
    exact List.mem_append_left _ (List.mem_of_getLast? hlast)
  · exact List.mem_append_right _ List.mem_cons_self

/-- The component that a path starts with before its named pieces. -/
def leading : (pieces : List (List Char)) → List Component
  | ['.'] :: _ => [.here]
  | [] :: _ :: _ => [.root]
  | _ => []

theorem components_eq (path : List Char) :
    components path
      = leading (splitAt '/' path) ++ (splitAt '/' path).filterMap Component.ofPiece? := by
  rw [components]
  split
  · rename_i h
    rw [h]
    rfl
  · rename_i h
    rw [h]
    rfl
  · rename_i h h'
    rw [leading]
    · rfl
    · exact h
    · exact h'

/-- More pieces matter only behind a single empty one. -/
theorem leading_append {pieces more : List (List Char)} (hne : pieces ≠ []) (hmore : more ≠ []) :
    leading (pieces ++ more) = if pieces = [[]] then [.root] else leading pieces := by
  obtain ⟨first, rest, rfl⟩ := List.exists_cons_of_ne_nil hne
  obtain ⟨next, more, rfl⟩ := List.exists_cons_of_ne_nil hmore
  by_cases hnil : first = []
  · subst hnil
    cases rest <;> simp [leading]
  · have hroot : first :: rest ≠ [[]] := fun h => hnil (List.cons.inj h).1
    rw [if_neg hroot]
    by_cases hhere : first = ['.']
    · subst hhere
      rfl
    · simp [leading, hnil, hhere]

/-- A path whose first piece is not empty does not start at the root. -/
theorem isAbsolute_of_splitAt {piece : List Char} {pieces : List (List Char)}
    (hname : splitAt '/' name = piece :: pieces) (hsome : piece ≠ []) : isAbsolute name = false := by
  cases name with
  | nil => rfl
  | cons c rest =>
      have hc : c ≠ '/' := by
        rintro rfl
        rw [Text.splitAt_cons_sep] at hname
        exact hsome (List.cons.inj hname).1.symm
      simpa [isAbsolute] using hc

/-- Pieces joined to a path add their own components, unless the first of them
    stays where it is. -/
theorem components_join_of_splitAt (hpath : path ≠ []) {piece : List Char}
    {pieces : List (List Char)} (hname : splitAt '/' name = piece :: pieces) (hsome : piece ≠ [])
    (hhere : piece ≠ ['.']) : components (join path name) = components path ++ components name := by
  have hleading : leading (piece :: pieces) = [] := by
    simp [leading, hsome, hhere]
  obtain ⟨front, hne, hsplit, hjoin⟩ :=
    exists_pieces_join hpath (isAbsolute_of_splitAt hname hsome)
  rw [components_eq, components_eq path, components_eq name, hjoin, hname,
    leading_append hne (by simp), hleading, List.nil_append, List.filterMap_append,
    ← List.append_assoc]
  congr 1
  rcases hsplit with ⟨h, hne'⟩ | h
  · rw [h, if_neg hne']
  · rw [h, leading_append hne (by simp), List.filterMap_append]
    simp [Component.ofPiece?]

theorem ProperName.components_eq (h : ProperName name) : components name = [.named name] := by
  rw [FilePath.components_eq, Text.splitAt_of_not_mem h.no_slash, List.filterMap_cons, h.ofPiece_eq]
  simp [leading, h.ne_here]

theorem components_join (hpath : path ≠ []) (hname : ProperName name) :
    components (join path name) = components path ++ [.named name] := by
  rw [components_join_of_splitAt hpath (Text.splitAt_of_not_mem hname.no_slash) hname.ne_nil
    hname.ne_here, hname.components_eq]

theorem namedPieces_join (hpath : path ≠ []) (hname : ProperName name) :
    namedPieces (join path name) = namedPieces path ++ [name] := by
  obtain ⟨pieces, -, hsplit, hjoin⟩ := exists_pieces_join hpath hname.isAbsolute_eq_false
  have hfilter : [name].filter (!·.isEmpty) = [name] := by
    simp [hname.ne_nil]
  rw [namedPieces, namedPieces, hjoin, Text.splitAt_of_not_mem hname.no_slash,
    List.filter_append, hfilter]
  rcases hsplit with ⟨h, -⟩ | h
  · rw [h]
  · rw [h, List.filter_append]
    simp

/-! ## Several names -/

/-- The path of the entry that names lead to from a directory. -/
def below (directory : List Char) (names : FileTree.Location) : List Char :=
  names.foldl join directory

variable {names : FileTree.Location}

theorem below_concat (directory : List Char) (names : FileTree.Location) (name : List Char) :
    below directory (names ++ [name]) = join (below directory names) name :=
  List.foldl_concat ..

theorem below_ne_nil (hpath : path ≠ []) (names : FileTree.Location) : below path names ≠ [] := by
  induction names using List.reverseRecOn with
  | nil => exact hpath
  | append_singleton names name ih =>
      rw [below_concat]
      exact join_ne_nil ih name

theorem components_below (hpath : path ≠ []) (hnames : ∀ name ∈ names, ProperName name) :
    components (below path names) = components path ++ names.map .named := by
  induction names using List.reverseRecOn with
  | nil => rw [List.map_nil, List.append_nil]; rfl
  | append_singleton names name ih =>
      obtain ⟨hinit, hlast⟩ := List.forall_mem_append.mp hnames
      rw [below_concat, components_join (below_ne_nil hpath names) (hlast name (by simp)),
        ih hinit, List.map_append, List.append_assoc]
      rfl

theorem slash_mem_below (hpath : path ≠ []) (hnames : ∀ name ∈ names, ProperName name)
    (hne : names ≠ []) : '/' ∈ below path names := by
  obtain ⟨init, last, rfl⟩ : ∃ init last, names = init ++ [last] :=
    ⟨names.dropLast, names.getLast hne, (List.dropLast_append_getLast hne).symm⟩
  rw [below_concat]
  exact slash_mem_join (below_ne_nil hpath init) (hnames last (by simp))

/-- Different names lead to paths with different components. -/
theorem below_injective (hpath : path ≠ []) {names' : FileTree.Location}
    (hnames : ∀ name ∈ names, ProperName name) (hnames' : ∀ name ∈ names', ProperName name)
    (h : components (below path names) = components (below path names')) : names = names' := by
  rw [components_below hpath hnames, components_below hpath hnames'] at h
  exact List.map_injective_iff.mpr (fun _ _ h => Component.named.inj h) (List.append_cancel_left h)

theorem namedPieces_below (hpath : path ≠ []) (hnames : ∀ name ∈ names, ProperName name) :
    namedPieces (below path names) = namedPieces path ++ names := by
  induction names using List.reverseRecOn with
  | nil => rw [List.append_nil]; rfl
  | append_singleton names name ih =>
      obtain ⟨hinit, hlast⟩ := List.forall_mem_append.mp hnames
      rw [below_concat, namedPieces_join (below_ne_nil hpath names) (hlast name (by simp)),
        ih hinit, List.append_assoc]

theorem isAbsolute_below (hpath : path ≠ []) (hnames : ∀ name ∈ names, ProperName name) :
    isAbsolute (below path names) = isAbsolute path := by
  induction names using List.reverseRecOn with
  | nil => rfl
  | append_singleton names name ih =>
      obtain ⟨hinit, hlast⟩ := List.forall_mem_append.mp hnames
      rw [below_concat, isAbsolute_join (below_ne_nil hpath names) (hlast name (by simp)),
        ih hinit]

/-- A path that ends with a name asks for no directory. -/
theorem steps_below (hpath : path ≠ []) (hnames : ∀ name ∈ names, ProperName name)
    (hne : names ≠ []) : FileTree.steps (below path names) = namedPieces path ++ names := by
  obtain ⟨init, last, rfl⟩ : ∃ init last, names = init ++ [last] :=
    ⟨names.dropLast, names.getLast hne, (List.dropLast_append_getLast hne).symm⟩
  have hlast : (below path (init ++ [last])).getLast? ≠ some '/' := by
    rw [below_concat]
    exact getLast_join (hnames last (by simp))
  rw [← namedPieces_below hpath hnames]
  simp [FileTree.steps, namedPieces, hlast]

end SnippetScope.FilePath
