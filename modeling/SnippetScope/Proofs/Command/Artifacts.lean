/-
  SnippetScope.Proofs.Command.Artifacts

  What becomes of the tree when files are written one after the other.  Up to
  the first that fails, only the paths of the files and of the directories
  around them are touched (`edits_writeAll`); if none fails, each file whose
  path no later one shares holds its text in the end (`holds_writeAll`).
-/
import SnippetScope.Command.Artifact
import SnippetScope.Proofs.FileTree.Edits

namespace SnippetScope.Command

open FilePath (parent?)
open FileTree (Location Encloses Edits edits_ensurePath edits_writeText item?_eq_file_iff)

variable {here : Location} {tree : FileTree} {artifacts : List Artifact}

/-- A file is written after the directories around it; nothing else is touched,
    and without a failure the file holds its text. -/
theorem Artifact.edits_write (a : Artifact) (here : Location) (tree : FileTree) :
    Edits here (Encloses a.path) (fun path text => path = a.path ∧ text = a.text) tree
        (a.write here tree).1
      ∧ ((a.write here tree).2 = none → (a.write here tree).1.Holds here a.path a.text) := by
  unfold Artifact.write
  extract_lets enclosing changed
  -- An empty path stands for the working directory, which is not made.
  have hparent : ∀ path, enclosing = some path → parent? a.path = some path := by
    intro path h
    simp only [enclosing] at h
    split at h
    · cases h
    · exact h
  clear_value enclosing
  have hmade : Edits here (Encloses a.path) (fun path text => path = a.path ∧ text = a.text) tree
      changed.tree := by
    simp only [changed]
    cases enclosing with
    | none => exact .refl tree
    | some path =>
        refine (edits_ensurePath tree here path).mono ?_ fun _ _ h => h.elim
        rintro _ (rfl | hbeyond)
        · exact .parent (hparent _ rfl)
        · exact .beyond (hparent path rfl) hbeyond
  clear_value changed
  split
  · exact ⟨hmade, by simp⟩
  · split
    · rename_i hwritten
      obtain ⟨hedits, hholds⟩ := edits_writeText hwritten
      exact ⟨hmade.trans (hedits.mono (fun _ h => h.elim) fun _ _ h => h), fun _ => hholds⟩
    · exact ⟨hmade, by simp⟩

/-- Writing files touches their paths and those of the directories around
    them. -/
theorem edits_writeAll (here : Location) (tree : FileTree) (artifacts : List Artifact) :
    Edits here (fun enclosing => ∃ a ∈ artifacts, Encloses a.path enclosing)
      (fun path text => ∃ a ∈ artifacts, path = a.path ∧ text = a.text) tree
      (writeAll here tree artifacts).tree := by
  induction artifacts generalizing tree with
  | nil => exact .refl tree
  | cons a rest ih =>
      have hfirst : Edits here (fun enclosing => ∃ b ∈ a :: rest, Encloses b.path enclosing)
          (fun path text => ∃ b ∈ a :: rest, path = b.path ∧ text = b.text) tree
          (a.write here tree).1 :=
        (a.edits_write here tree).1.mono (fun _ h => ⟨a, List.mem_cons_self, h⟩)
          fun _ _ h => ⟨a, List.mem_cons_self, h⟩
      rw [writeAll]
      split
      · rename_i hwrite
        rw [hwrite] at hfirst
        exact hfirst
      · rename_i tree' hwrite
        rw [hwrite] at hfirst
        refine hfirst.trans ((ih tree').mono ?_ ?_)
        · rintro _ ⟨b, hb, h⟩
          exact ⟨b, List.mem_cons_of_mem a hb, h⟩
        · rintro _ _ ⟨b, hb, h⟩
          exact ⟨b, List.mem_cons_of_mem a hb, h⟩

/-- Without a failure the later files are written to the tree with the first. -/
theorem writeAll_cons {a : Artifact} {rest : List Artifact}
    (h : (writeAll here tree (a :: rest)).failure = none) :
    (a.write here tree).2 = none
      ∧ (writeAll here (a.write here tree).1 rest).failure = none
      ∧ (writeAll here tree (a :: rest)).tree
          = (writeAll here (a.write here tree).1 rest).tree := by
  rw [writeAll] at h ⊢
  split at h
  · cases h
  · rename_i hwrite
    rw [hwrite]
    exact ⟨rfl, h, rfl⟩

/-- Without a failure a file holds its text in the end, unless the path of a
    later one leads to the same place. -/
theorem holds_writeAll (h : (writeAll here tree artifacts).failure = none)
    {front rest : List Artifact} {a : Artifact} (hsplit : artifacts = front ++ a :: rest)
    (hapart : ∀ b ∈ rest, ∀ place,
      (writeAll here tree artifacts).tree.LeadsTo here a.path place →
      ¬ (writeAll here tree artifacts).tree.LeadsTo here b.path place) :
    (writeAll here tree artifacts).tree.Holds here a.path a.text := by
  induction front generalizing tree artifacts with
  | nil =>
      subst hsplit
      obtain ⟨hwrite, -, htree⟩ := writeAll_cons h
      rw [List.nil_append] at hapart ⊢
      rw [htree] at hapart ⊢
      obtain ⟨place, hleads, hget⟩ := (a.edits_write here tree).2 hwrite
      have hrest := edits_writeAll here (a.write here tree).1 rest
      have hleads' := hleads.grows hrest.grows
      refine ⟨place, hleads', ?_⟩
      -- The later files leave the place alone, as none of their paths leads to it.
      have hitem := item?_eq_file_iff.mpr hget
      cases hrest place with
      | same hsame => exact item?_eq_file_iff.mp (hsame.trans hitem)
      | made _ _ hbefore _ =>
          rw [hbefore] at hitem
          cases hitem
      | written hpath hto _ _ =>
          obtain ⟨b, hb, rfl, rfl⟩ := hpath
          exact absurd hto (hapart b hb place hleads')
  | cons first front ih =>
      subst hsplit
      rw [List.cons_append] at h hapart ⊢
      obtain ⟨-, hfailure, htree⟩ := writeAll_cons h
      rw [htree] at hapart ⊢
      exact ih hfailure rfl hapart

end SnippetScope.Command
