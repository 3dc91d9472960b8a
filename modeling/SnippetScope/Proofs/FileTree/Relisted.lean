/-
  SnippetScope.Proofs.FileTree.Relisted

  The same tree with the entries of its directories listed in another order.
  A path is followed by looking names up, so it leads to the same place in
  both (`Relisted.find_eq`), and what lies there differs in the order of
  entries at most (`Relisted.get?`).
-/
import SnippetScope.Proofs.FileTree.Plain

namespace SnippetScope.FileTree

/-- The trees have the same files and directories, but a directory may list its
    entries in another order.  No link has a counterpart. -/
inductive Relisted : FileTree → FileTree → Prop where
  | file (content : ByteArray) : Relisted (.file content) (.file content)
  | directory {entries entries' : List (List Char × FileTree)}
      (hnames : (entries.map (·.1)).Perm (entries'.map (·.1)))
      (hentries : ∀ name entry entry', (name, entry) ∈ entries → (name, entry') ∈ entries' →
        Relisted entry entry') :
      Relisted (.directory entries) (.directory entries')

/-- Another order of a plain tree's entries gives a plain tree again. -/
theorem Plain.relisted {tree tree' : FileTree} (hplain : tree.Plain) (h : tree.Relisted tree') :
    tree'.Plain := by
  induction hplain generalizing tree' with
  | file content =>
      cases h
      exact .file content
  | @directory entries hnodup hproper _ ih =>
      cases h with
      | @directory _ entries' hnames hrelisted =>
          -- Every name that is listed now was listed before.
          have hbefore : ∀ e ∈ entries', ∃ e' ∈ entries, e'.1 = e.1 := fun e he =>
            List.mem_map.mp (hnames.mem_iff.mpr (List.mem_map_of_mem he))
          refine .directory (hnames.nodup_iff.mp hnodup) ?_ ?_
          · intro e he
            obtain ⟨e', he', hname⟩ := hbefore e he
            exact hname ▸ hproper e' he'
          · intro e he
            obtain ⟨e', he', hname⟩ := hbefore e he
            exact ih e' he' (hrelisted e'.1 e'.2 e.2 he' (hname ▸ he))

namespace Relisted

variable {root root' : FileTree}

theorem lookup {entries entries' : List (List Char × FileTree)}
    (h : Relisted (.directory entries) (.directory entries')) (name : List Char) :
    Option.Rel Relisted (entries.lookup name) (entries'.lookup name) := by
  cases h with
  | directory hnames hentries =>
      cases hentry : entries.lookup name with
      | none =>
          have hnone : entries'.lookup name = none := by
            rw [lookup_eq_none_iff, ← hnames.mem_iff, ← lookup_eq_none_iff]
            exact hentry
          rw [hnone]
          exact .none
      | some entry =>
          -- The name is listed in both, so it is looked up with success in both.
          have hsome : entries'.lookup name ≠ none := by
            rw [Ne, lookup_eq_none_iff, ← hnames.mem_iff, ← lookup_eq_none_iff, hentry]
            exact Option.some_ne_none entry
          obtain ⟨entry', hentry'⟩ := Option.ne_none_iff_exists'.mp hsome
          rw [hentry']
          exact .some (hentries name entry entry' (mem_of_lookup hentry) (mem_of_lookup hentry'))

theorem get? (h : Relisted root root') (place : Location) :
    Option.Rel Relisted (root.get? place) (root'.get? place) := by
  induction place generalizing root root' with
  | nil =>
      rw [get?_nil, get?_nil]
      exact .some h
  | cons name place ih =>
      cases h with
      | file content => exact .none
      | directory hnames hentries =>
          rw [get?_cons, get?_cons]
          have hentry := Relisted.lookup (.directory hnames hentries) name
          revert hentry
          generalize List.lookup name _ = entry
          generalize List.lookup name _ = entry'
          rintro (⟨hentry⟩ | _)
          · exact ih hentry
          · exact .none

/-- A file is the same in both. -/
theorem get?_eq_file_iff (h : Relisted root root') {place : Location} {content : ByteArray} :
    root.get? place = some (.file content) ↔ root'.get? place = some (.file content) := by
  have hentry := h.get? place
  revert hentry
  generalize root.get? place = entry
  generalize root'.get? place = entry'
  rintro (⟨⟨⟩ | ⟨⟩⟩ | _) <;> simp

theorem exists_directory (h : Relisted root root') {place : Location}
    {entries : List (List Char × FileTree)} (hplace : root.get? place = some (.directory entries)) :
    ∃ entries', root'.get? place = some (.directory entries') := by
  have hentry := h.get? place
  rw [hplace] at hentry
  revert hentry
  generalize root'.get? place = entry'
  rintro (⟨⟨⟩⟩ | _)
  exact ⟨_, rfl⟩

/-- The same steps can be taken in both.  What is done at a link does not
    matter, since there are none. -/
theorem advance_eq (h : Relisted root root')
    (onLink onLink' : Location → List Char → List (List Char) → Except FileFault Location)
    (place : Location) (steps : List (List Char)) :
    advance root onLink place steps = advance root' onLink' place steps := by
  induction steps generalizing place with
  | nil => rfl
  | cons step steps ih =>
      rw [advance, advance]
      have hplace := h.get? place
      -- Only how the two entries are related counts from here on.
      revert hplace
      generalize root.get? place = here
      generalize root'.get? place = here'
      rintro (⟨⟨content⟩ | ⟨hnames, hentries⟩⟩ | _)
      · rfl
      · have hentry := Relisted.lookup (.directory hnames hentries) step
        simp only [ih]
        revert hentry
        generalize List.lookup step _ = entry
        generalize List.lookup step _ = entry'
        rintro (⟨⟨⟩ | ⟨⟩⟩ | _) <;> rfl
      · rfl

/-- A path leads to the same place in both. -/
theorem find_eq (h : Relisted root root') (here : Location) (path : List Char) :
    root'.find here path = root.find here path := by
  rw [find, find]
  split
  · rfl
  · exact (h.advance_eq _ _ _ _).symm

end Relisted

end SnippetScope.FileTree
