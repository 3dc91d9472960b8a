/-
  SnippetScope.Proofs.FileTree.Walk

  What a walk over a tree without links finds: the path of each file that is
  not below a directory passed over, once (`walk_finds`).  A walk goes through
  entries in the order in which they are listed; what it finds is said here by
  membership alone, so that the order does not matter to what follows.
-/
import SnippetScope.FileTree.Walk
import SnippetScope.Proofs.FileTree.Plain

namespace SnippetScope.FileTree

open FilePath (ProperName below components)

/-- None of the directories that the names pass through is passed over. -/
def Visited (names : Location) : Prop :=
  ∀ name ∈ names.dropLast, isSkipped name = false

/-- The paths are those of the names that are accepted, below a directory, and
    no two of them have the same components. -/
structure Finds (directory : List Char) (accepts : Location → Prop)
    (paths : List (List Char)) : Prop where
  mem_iff : ∀ path, path ∈ paths ↔ ∃ names, accepts names ∧ path = below directory names
  distinct : paths.Pairwise fun a b => components a ≠ components b

namespace Finds

variable {directory : List Char} {accepts accepts' : Location → Prop}
  {paths paths' : List (List Char)}

theorem congr (h : Finds directory accepts paths) (hiff : ∀ names, accepts names ↔ accepts' names) :
    Finds directory accepts' paths := by
  refine ⟨fun path => ?_, h.distinct⟩
  simp only [h.mem_iff, hiff]

theorem none (directory : List Char) : Finds directory (fun _ => False) [] :=
  ⟨by simp, List.Pairwise.nil⟩

/-- What is found in two parts is found in both together, if the names tell the
    parts apart. -/
theorem append (h : Finds directory accepts paths) (h' : Finds directory accepts' paths')
    (hdir : directory ≠ [])
    (hproper : ∀ names, accepts names ∨ accepts' names → ∀ name ∈ names, ProperName name)
    (hapart : ∀ names, accepts names → ¬ accepts' names) :
    Finds directory (fun names => accepts names ∨ accepts' names) (paths ++ paths') := by
  refine ⟨fun path => ?_, List.pairwise_append.mpr ⟨h.distinct, h'.distinct, ?_⟩⟩
  · simp only [List.mem_append, h.mem_iff, h'.mem_iff, or_and_right, exists_or]
  · intro a ha b hb heq
    obtain ⟨names, hnames, rfl⟩ := (h.mem_iff a).mp ha
    obtain ⟨names', hnames', rfl⟩ := (h'.mem_iff b).mp hb
    obtain rfl := FilePath.below_injective hdir (hproper names (.inl hnames))
      (hproper names' (.inr hnames')) heq
    exact hapart names hnames hnames'

/-- Whatever is taken from the paths is given by names. -/
theorem exists_names (h : Finds directory accepts paths) (hsub : paths' ⊆ paths) :
    ∃ places : List Location,
      paths' = places.map (below directory) ∧ ∀ names ∈ places, accepts names := by
  induction paths' with
  | nil => exact ⟨[], rfl, by simp⟩
  | cons path paths' ih =>
      obtain ⟨hpath, hrest⟩ := List.cons_subset.mp hsub
      obtain ⟨names, hnames, rfl⟩ := (h.mem_iff path).mp hpath
      obtain ⟨places, rfl, hplaces⟩ := ih hrest
      exact ⟨names :: places, rfl, List.forall_mem_cons.mpr ⟨hnames, hplaces⟩⟩

/-- What is found below an entry is found below its directory. -/
theorem ofEntry {name : List Char} (h : Finds (FilePath.join directory name) accepts paths) :
    Finds directory (fun names => ∃ rest, names = name :: rest ∧ accepts rest) paths := by
  refine ⟨fun path => ?_, h.distinct⟩
  rw [h.mem_iff]
  constructor
  · rintro ⟨rest, hrest, rfl⟩
    exact ⟨name :: rest, ⟨rest, rfl, hrest⟩, rfl⟩
  · rintro ⟨_, ⟨rest, rfl, hrest⟩, rfl⟩
    exact ⟨rest, hrest, rfl⟩

end Finds

/-! ## One step of a walk -/

theorem visited_cons {name : List Char} {names : Location} (hne : names ≠ []) :
    Visited (name :: names) ↔ isSkipped name = false ∧ Visited names := by
  rw [Visited, List.dropLast_cons_of_ne_nil hne, List.forall_mem_cons, Visited]

theorem not_isFileAt_nil (entries : List (List Char × FileTree)) :
    ¬ (directory entries).IsFileAt [] := by
  rintro ⟨content, h⟩
  cases Option.some.inj h

theorem isFileAt_file_iff {content : ByteArray} {names : Location} :
    (file content).IsFileAt names ↔ names = [] := by
  constructor
  · rintro ⟨content', h⟩
    cases names with
    | nil => rfl
    | cons name names => simp [get?] at h
  · rintro rfl
    exact ⟨content, rfl⟩

/-- The files among entries are those of the first entry and those of the rest. -/
theorem isFileAt_cons_iff {name : List Char} {entry : FileTree}
    {rest : List (List Char × FileTree)} (hname : rest.lookup name = none) {names : Location} :
    (directory ((name, entry) :: rest)).IsFileAt names ↔
      (∃ names', names = name :: names' ∧ entry.IsFileAt names')
        ∨ (directory rest).IsFileAt names := by
  cases names with
  | nil => simp [not_isFileAt_nil]
  | cons n names' =>
      simp only [IsFileAt, get?_cons, List.lookup_cons, List.cons.injEq]
      by_cases hn : n = name
      · subst hn
        simp [hname]
      · have hbeq : (n == name) = false := by simpa using hn
        simp [hn, hbeq]

/-- A walk over an entry with a name finds its files. -/
def EntryFinds (onLink : LinkStep) (name : List Char) (entry : FileTree) : Prop :=
  ∀ (around : List Visit) (place : Location) (path : List Char), path ≠ [] →
    ∃ paths, walkEntry onLink around place path name entry = .ok paths
      ∧ Finds path (fun names => entry.IsFileAt names ∧ Visited (name :: names)) paths

variable {onLink : LinkStep}

/-- If the walk over each entry finds its files, the walk over all of them
    finds the files of all. -/
theorem walkEntries_finds {entries : List (List Char × FileTree)}
    (hplain : (directory entries).Plain) (hentries : ∀ e ∈ entries, EntryFinds onLink e.1 e.2)
    (around : List Visit) (place : Location) {path : List Char} (hpath : path ≠ []) :
    ∃ paths, walkEntries onLink around place path entries = .ok paths
      ∧ Finds path (fun names => (directory entries).IsFileAt names ∧ Visited names) paths := by
  induction entries with
  | nil =>
      refine ⟨[], by rw [walkEntries], (Finds.none path).congr fun names => ?_⟩
      cases names <;> simp [IsFileAt, get?]
  | cons e rest ih =>
      obtain ⟨name, entry⟩ := e
      obtain ⟨hfirst, hrest⟩ := List.forall_mem_cons.mp hentries
      have hproper : ∀ names, (directory ((name, entry) :: rest)).IsFileAt names →
          ∀ n ∈ names, ProperName n := by
        rintro names ⟨content, hfile⟩
        exact hplain.properName hfile
      cases hplain with
      | directory hnodup hnames hplains =>
          have hname : rest.lookup name = none :=
            lookup_eq_none_iff.mpr (List.nodup_cons.mp hnodup).1
          -- What the walk finds in the other entries, and in the first one.
          obtain ⟨others, hothers, hfound'⟩ := ih (.directory (List.nodup_cons.mp hnodup).2
            (fun e he => hnames e (List.mem_cons_of_mem _ he))
            (fun e he => hplains e (List.mem_cons_of_mem _ he))) hrest
          obtain ⟨found, hwalk, hfound⟩ := hfirst around (place ++ [name])
            (FilePath.join path name) (FilePath.join_ne_nil hpath name)
          refine ⟨found ++ others, by rw [walkEntries, hwalk, hothers]; rfl, ?_⟩
          -- Names lead to a file in the first entry or among the others.
          have hiff : ∀ names,
              ((∃ names', names = name :: names' ∧ entry.IsFileAt names' ∧ Visited (name :: names'))
                  ∨ ((directory rest).IsFileAt names ∧ Visited names)) ↔
                (directory ((name, entry) :: rest)).IsFileAt names ∧ Visited names := by
            intro names
            rw [isFileAt_cons_iff hname]
            constructor
            · rintro (⟨names', rfl, hfile, hvisited⟩ | ⟨hfile, hvisited⟩)
              · exact ⟨.inl ⟨names', rfl, hfile⟩, hvisited⟩
              · exact ⟨.inr hfile, hvisited⟩
            · rintro ⟨⟨names', rfl, hfile⟩ | hfile, hvisited⟩
              · exact .inl ⟨names', rfl, hfile, hvisited⟩
              · exact .inr ⟨hfile, hvisited⟩
          refine (hfound.ofEntry.append hfound' hpath ?_ ?_).congr hiff
          · exact fun names h => hproper names ((hiff names).mp h).1
          · -- The name of the first entry is not among the others.
            rintro _ ⟨names', rfl, -, -⟩ ⟨⟨content, h⟩, -⟩
            rw [get?_cons, hname] at h
            cases h

theorem walkEntry_finds {entry : FileTree} (hplain : entry.Plain) (name : List Char) :
    EntryFinds onLink name entry := by
  induction hplain generalizing name with
  | file content =>
      intro around place path _
      refine ⟨[path], by rw [walkEntry], fun p => ?_, List.pairwise_singleton _ _⟩
      simp only [isFileAt_file_iff]
      constructor
      · intro hp
        exact ⟨[], ⟨rfl, by simp [Visited]⟩, List.mem_singleton.mp hp⟩
      · rintro ⟨_, ⟨rfl, -⟩, rfl⟩
        exact List.mem_singleton.mpr rfl
  | @directory entries hnodup hproper hentries ih =>
      intro around place path hpath
      have hvisited : ∀ names, (directory entries).IsFileAt names →
          (Visited (name :: names) ↔ isSkipped name = false ∧ Visited names) := by
        rintro names hfile
        exact visited_cons fun hnil => not_isFileAt_nil entries (hnil ▸ hfile)
      by_cases hskip : isSkipped name = true
      · -- Every file below lies below this directory, which is passed over.
        refine ⟨[], by rw [walkEntry, if_pos hskip], (Finds.none path).congr fun names => ?_⟩
        simp only [false_iff, not_and]
        intro hfile hvis
        exact absurd ((hvisited names hfile).mp hvis).1 (by simp [hskip])
      · obtain ⟨paths, hwalk, hfound⟩ := walkEntries_finds (.directory hnodup hproper hentries)
          (fun e he => ih e he e.1) (⟨place, path⟩ :: around) place hpath
        refine ⟨paths, by rw [walkEntry, if_neg hskip]; exact hwalk, hfound.congr fun names => ?_⟩
        refine and_congr_right fun hfile => ?_
        rw [hvisited names hfile]
        simp [hskip]

/-! ## The whole walk -/

/-- Below a directory of a tree without links, a walk finds the path of each
    file that is not below a directory passed over. -/
theorem walk_finds {root : FileTree} (hroot : root.Plain) {place : Location}
    {entries : List (List Char × FileTree)} (hplace : root.get? place = some (directory entries))
    {path : List Char} (hpath : path ≠ []) :
    ∃ paths, root.walk place path = .ok paths
      ∧ Finds path (fun names => root.IsFileAt (place ++ names) ∧ Visited names) paths := by
  have hplain := hroot.get? hplace
  have hentries : ∀ e ∈ entries,
      EntryFinds (walkLink root (root.directoryCount + 1)) e.1 e.2 := by
    cases hplain with
    | directory _ _ h => exact fun e he => walkEntry_finds (h e he) e.1
  obtain ⟨paths, hwalk, hfound⟩ := walkEntries_finds hplain hentries [⟨place, path⟩] place hpath
  refine ⟨paths, by rw [walk, hplace]; exact hwalk, hfound.congr fun names => ?_⟩
  simp only [IsFileAt, get?_append, hplace, Option.bind_some]

end SnippetScope.FileTree
