/-
  SnippetScope.Proofs.FileTree.Plain

  Trees of files and directories without links, and where paths lead in them.
  Without links the steps of a path can be taken one after the other
  (`advance_append`), so the path of an entry below a directory leads to the
  place of that entry (`find_below`).
-/
import SnippetScope.Proofs.FilePath.Below

namespace SnippetScope.FileTree

open FilePath (ProperName)

/-- A tree of files and directories.  The entries of a directory have
    different names that can stand in a path, and none of them is a link. -/
inductive Plain : FileTree → Prop where
  | file (content : ByteArray) : Plain (.file content)
  | directory {entries : List (List Char × FileTree)}
      (hnodup : (entries.map (·.1)).Nodup) (hproper : ∀ e ∈ entries, ProperName e.1)
      (hentries : ∀ e ∈ entries, Plain e.2) :
      Plain (.directory entries)

/-- The names lead to a file. -/
def IsFileAt (tree : FileTree) (names : Location) : Prop :=
  ∃ content, tree.get? names = some (.file content)

/-! ## Entries -/

theorem mem_of_lookup {entries : List (List Char × FileTree)} {name : List Char}
    {entry : FileTree} (h : entries.lookup name = some entry) : (name, entry) ∈ entries := by
  obtain ⟨before, behind, rfl, -⟩ := List.lookup_eq_some_iff.mp h
  simp

theorem lookup_eq_none_iff {entries : List (List Char × FileTree)} {name : List Char} :
    entries.lookup name = none ↔ name ∉ entries.map (·.1) := by
  rw [List.lookup_eq_none_iff]
  constructor
  · intro h hname
    obtain ⟨e, he, rfl⟩ := List.mem_map.mp hname
    simpa using h e he
  · intro h e he
    have hne : name ≠ e.1 := fun heq => h (List.mem_map.mpr ⟨e, he, heq.symm⟩)
    simpa using hne

theorem get?_nil (tree : FileTree) : tree.get? [] = some tree := by
  cases tree <;> rfl

theorem get?_cons (entries : List (List Char × FileTree)) (name : List Char) (names : Location) :
    (directory entries).get? (name :: names) = (entries.lookup name).bind (get? · names) :=
  rfl

/-- Only a directory has anything below it. -/
theorem exists_directory_of_get?_cons {tree entry : FileTree} {name : List Char}
    {names : Location} (h : tree.get? (name :: names) = some entry) :
    ∃ entries child, tree = directory entries ∧ entries.lookup name = some child
      ∧ child.get? names = some entry := by
  cases tree with
  | file content => simp [get?] at h
  | link target => simp [get?] at h
  | directory entries =>
      rw [get?_cons] at h
      obtain ⟨child, hchild, hentry⟩ := Option.bind_eq_some_iff.mp h
      exact ⟨entries, child, rfl, hchild, hentry⟩

theorem get?_append (tree : FileTree) (names names' : Location) :
    tree.get? (names ++ names') = (tree.get? names).bind (get? · names') := by
  induction names generalizing tree with
  | nil => simp [get?_nil]
  | cons name names ih =>
      cases tree with
      | file content => rfl
      | link target => rfl
      | directory entries =>
          rw [List.cons_append, get?_cons, get?_cons, Option.bind_assoc]
          exact congrArg _ (funext ih)

theorem Plain.get? {tree entry : FileTree} (h : tree.Plain) {place : Location}
    (hentry : tree.get? place = some entry) : entry.Plain := by
  induction place generalizing tree with
  | nil =>
      rw [get?_nil] at hentry
      exact Option.some.inj hentry ▸ h
  | cons name place ih =>
      obtain ⟨entries, child, rfl, hchild, hentry⟩ := exists_directory_of_get?_cons hentry
      cases h with
      | directory _ _ hentries => exact ih (hentries _ (mem_of_lookup hchild)) hentry

/-- Every name that leads to an entry can stand in a path. -/
theorem Plain.properName {tree entry : FileTree} (h : tree.Plain) {names : Location}
    (hentry : tree.get? names = some entry) : ∀ name ∈ names, ProperName name := by
  induction names generalizing tree with
  | nil => simp
  | cons name names ih =>
      obtain ⟨entries, child, rfl, hchild, hentry⟩ := exists_directory_of_get?_cons hentry
      cases h with
      | directory _ hproper hentries =>
          have hmem := mem_of_lookup hchild
          rw [List.forall_mem_cons]
          exact ⟨hproper _ hmem, ih (hentries _ hmem) hentry⟩

theorem Plain.not_link {tree : FileTree} (h : tree.Plain) (target : List Char) :
    tree ≠ .link target := by
  rintro rfl
  cases h

/-! ## Steps of a path -/

section Steps

variable {root : FileTree} {place : Location}
  {onLink : Location → List Char → List (List Char) → Except FileFault Location}

/-- Steps are taken one after the other. -/
theorem advance_append (hroot : root.Plain) (front behind : List (List Char)) :
    advance root onLink place (front ++ behind)
      = (advance root onLink place front).bind fun p => advance root onLink p behind := by
  induction front generalizing place with
  | nil => rfl
  | cons step front ih =>
      rw [List.cons_append, advance, advance]
      cases hplace : root.get? place with
      | none => rfl
      | some entry =>
          cases entry with
          | file content => rfl
          | link target => exact absurd rfl ((hroot.get? hplace).not_link target)
          | directory entries =>
              by_cases hhere : step = ['.']
              · simp only [hhere, if_true]
                exact ih
              · -- Two dots lead to the directory around, whatever is listed here.
                by_cases hparent : step = ['.', '.']
                · simp only [hparent, if_true]
                  exact ih
                · simp only [hhere, hparent, if_false]
                  cases hstep : entries.lookup step with
                  | none => rfl
                  | some child =>
                      cases hroot.get? hplace with
                      | directory _ _ hentries =>
                          -- No entry of a plain directory is a link.
                          have hchild := hentries _ (mem_of_lookup hstep)
                          cases child with
                          | link target => exact absurd rfl (hchild.not_link target)
                          | file content => exact ih
                          | directory below => exact ih

/-- A dot asks for a directory and stays there. -/
theorem advance_here {stop : Location} (h : advance root onLink place [['.']] = .ok stop) :
    stop = place := by
  rw [advance] at h
  split at h
  · exact (Except.ok.inj h).symm
  · cases h

/-- Names lead from a place to the entry that they name. -/
theorem advance_names (hroot : root.Plain) {names : Location} {entry : FileTree}
    (hentry : root.get? (place ++ names) = some entry)
    (hproper : ∀ name ∈ names, ProperName name) :
    advance root onLink place names = .ok (place ++ names) := by
  induction names generalizing place with
  | nil => rw [List.append_nil]; rfl
  | cons name names ih =>
      -- The place is a directory, since something lies below it.
      have hplace := hentry
      rw [get?_append] at hplace
      obtain ⟨here, hhere, hbelow⟩ := Option.bind_eq_some_iff.mp hplace
      obtain ⟨entries, child, rfl, hchild, -⟩ := exists_directory_of_get?_cons hbelow
      obtain ⟨hname, hnames⟩ := List.forall_mem_cons.mp hproper
      have hrest : advance root onLink (place ++ [name]) names = .ok (place ++ name :: names) := by
        rw [List.append_cons place name names] at hentry ⊢
        exact ih hentry hnames
      cases hroot.get? hhere with
      | directory _ _ hentries =>
          have hplain := hentries _ (mem_of_lookup hchild)
          rw [advance, hhere]
          simp only [hname.ne_here, hname.ne_parent, if_false, hchild]
          cases child with
          | link target => exact absurd rfl (hplain.not_link target)
          | file content => exact hrest
          | directory below => exact hrest

end Steps

/-- The path of a place leads on to each entry below that place. -/
theorem find_below {root entry : FileTree} (hroot : root.Plain) {here place : Location}
    {path : List Char} (hfind : root.find here path = .ok place) {names : Location}
    (hne : names ≠ []) (hentry : root.get? (place ++ names) = some entry) :
    root.find here (FilePath.below path names) = .ok (place ++ names) := by
  have hpath : path ≠ [] := by
    rintro rfl
    simp [find] at hfind
  have hproper : ∀ name ∈ names, ProperName name := fun name hname =>
    hroot.properName hentry name (List.mem_append_right place hname)
  obtain ⟨onLink, hroute⟩ : ∃ onLink, route root linkLimit = advance root onLink := ⟨_, rfl⟩
  -- A slash at the end of the path asks for the directory that is there anyway.
  have hpieces : advance root onLink (origin here path) (FilePath.namedPieces path)
      = .ok place := by
    rw [find, if_neg (by simpa using hpath), hroute, steps] at hfind
    split at hfind
    · rw [advance_append hroot] at hfind
      cases hfront : advance root onLink (origin here path) (FilePath.namedPieces path) with
      | error fault =>
          rw [FilePath.namedPieces] at hfront
          rw [hfront] at hfind
          cases hfind
      | ok stop =>
          rw [FilePath.namedPieces] at hfront
          rw [hfront] at hfind
          rw [advance_here hfind]
    · exact hfind
  rw [find, if_neg (by simpa using FilePath.below_ne_nil hpath names),
    FilePath.steps_below hpath hproper hne, hroute, origin,
    FilePath.isAbsolute_below hpath hproper, ← origin, advance_append hroot, hpieces]
  exact advance_names hroot hentry hproper

end SnippetScope.FileTree
