/-
  SnippetScope.Proofs.FileTree.Items

  What stands at each place of a tree: a file, a link or a directory.  Where
  paths lead depends on nothing else (`advance_cons`), and to put something
  with nothing below it into a directory changes a single place (`item?_put`).
-/
import SnippetScope.Proofs.FileTree.Plain

namespace SnippetScope.FileTree

/-- What stands at a place, without what lies below it. -/
inductive Item where
  | file (content : ByteArray)
  | link (target : List Char)
  | directory

/-- A tree without what lies below its root. -/
def item : FileTree → Item
  | file content => .file content
  | link target => .link target
  | directory _ => .directory

/-- What stands at a place of a tree, if anything does. -/
def item? (root : FileTree) (place : Location) : Option Item :=
  (root.get? place).map item

variable {root entry : FileTree} {place : Location} {name : List Char}

/-! ## Items and entries -/

theorem item?_eq_file_iff {content : ByteArray} :
    root.item? place = some (.file content) ↔ root.get? place = some (.file content) := by
  rw [item?]
  cases root.get? place with
  | none => simp
  | some entry => cases entry <;> simp [item]

theorem item?_eq_link_iff {target : List Char} :
    root.item? place = some (.link target) ↔ root.get? place = some (.link target) := by
  rw [item?]
  cases root.get? place with
  | none => simp
  | some entry => cases entry <;> simp [item]

theorem item?_eq_directory_iff :
    root.item? place = some .directory ↔ ∃ entries, root.get? place = some (.directory entries) := by
  rw [item?]
  cases root.get? place with
  | none => simp
  | some entry => cases entry <;> simp [item]

theorem item?_eq_none_iff : root.item? place = none ↔ root.get? place = none := by
  rw [item?, Option.map_eq_none_iff]

theorem item?_cons (entries : List (List Char × FileTree)) (name : List Char) (names : Location) :
    (directory entries).item? (name :: names) = (entries.lookup name).bind (item? · names) := by
  rw [item?, get?_cons, Option.map_bind]
  rfl

/-- What stands under a name in a directory is what the name is listed with. -/
theorem item?_concat {entries : List (List Char × FileTree)}
    (hplace : root.get? place = some (directory entries)) (name : List Char) :
    root.item? (place ++ [name]) = (entries.lookup name).map item := by
  rw [item?, get?_append, hplace, Option.bind_some, get?_cons]
  cases entries.lookup name with
  | none => rfl
  | some child => rw [Option.bind_some, get?_nil]

/-- Nothing lies below a place without a directory. -/
theorem get?_below_eq_none (hplace : root.item? place ≠ some .directory) {names : Location}
    (hne : names ≠ []) : root.get? (place ++ names) = none := by
  obtain ⟨name, names, rfl⟩ := List.exists_cons_of_ne_nil hne
  rw [get?_append, Option.bind_eq_none_iff]
  intro entry hentry
  cases entry with
  | file content => rfl
  | link target => rfl
  | directory entries => exact absurd (item?_eq_directory_iff.mpr ⟨entries, hentry⟩) hplace

/-- How a path goes on is decided by what stands at the place and under the
    name. -/
theorem advance_cons
    (onLink : Location → List Char → List (List Char) → Except FileFault Location)
    (place : Location) (step : List Char) (rest : List (List Char)) :
    advance root onLink place (step :: rest) =
      match root.item? place with
      | some .directory =>
        if step = ['.'] then advance root onLink place rest
        else if step = ['.', '.'] then advance root onLink place.dropLast rest
        else match root.item? (place ++ [step]) with
          | none => .error .missing
          | some (.link target) => onLink place target rest
          | some _ => advance root onLink (place ++ [step]) rest
      | _ => .error .notDirectory := by
  rw [advance]
  cases hplace : root.get? place with
  | none => simp [item?, hplace]
  | some entry =>
      cases entry with
      | file content => simp [item?, hplace, item]
      | link target => simp [item?, hplace, item]
      | directory entries =>
          rw [item?_concat hplace, item?, hplace]
          simp only [Option.map_some, item]
          cases entries.lookup step with
          | none => rfl
          | some child => cases child <;> rfl

/-! ## Putting an entry -/

theorem lookup_putEntry (name : List Char) (entry : FileTree)
    (entries : List (List Char × FileTree)) (other : List Char) :
    (putEntry name entry entries).lookup other
      = if other = name then some entry else entries.lookup other := by
  induction entries with
  | nil =>
      rw [putEntry, List.lookup_cons]
      by_cases hother : other = name
      · simp [hother]
      · simp [hother, beq_eq_false_iff_ne.mpr hother]
  | cons e entries ih =>
      obtain ⟨n, child⟩ := e
      rw [putEntry]
      by_cases hn : n = name
      · subst hn
        rw [if_pos rfl, List.lookup_cons, List.lookup_cons]
        by_cases hother : other = n
        · simp [hother]
        · simp [hother, beq_eq_false_iff_ne.mpr hother]
      · rw [if_neg hn, List.lookup_cons, List.lookup_cons, ih]
        by_cases hother : other = n
        · subst hother
          simp [hn]
        · simp [beq_eq_false_iff_ne.mpr hother]

theorem put_singleton (entry : FileTree) (entries : List (List Char × FileTree))
    (name : List Char) :
    put entry (directory entries) [name] = directory (putEntry name entry entries) := by
  cases hname : entries.lookup name <;> simp [put, hname]

theorem put_cons {entries : List (List Char × FileTree)} {child : FileTree}
    (hname : entries.lookup name = some child) (entry : FileTree) (names : Location) :
    put entry (directory entries) (name :: names)
      = directory (putEntry name (put entry child names) entries) := by
  simp [put, hname]

/-- An entry with nothing below it, put into a directory where nothing lies
    below its name, changes what stands under this name and nothing else. -/
theorem item?_put (hplace : root.item? place = some .directory)
    (hentry : ∀ names, names ≠ [] → entry.get? names = none)
    (hbelow : ∀ names, names ≠ [] → root.get? (place ++ [name] ++ names) = none)
    (other : Location) :
    (put entry root (place ++ [name])).item? other
      = if other = place ++ [name] then some entry.item else root.item? other := by
  induction place generalizing root other with
  | nil =>
      obtain ⟨entries, hroot⟩ := item?_eq_directory_iff.mp hplace
      rw [get?_nil] at hroot
      obtain rfl := Option.some.inj hroot
      rw [List.nil_append, put_singleton]
      cases other with
      | nil => simp [item?, get?_nil, item]
      | cons n names =>
          rw [item?_cons, item?_cons, lookup_putEntry]
          by_cases hn : n = name
          · subst hn
            rw [if_pos rfl, Option.bind_some]
            by_cases hnames : names = []
            · subst hnames
              rw [if_pos rfl, item?, get?_nil]
              rfl
            · have hnone : (directory entries).item? (n :: names) = none :=
                item?_eq_none_iff.mpr (hbelow names hnames)
              rw [if_neg (by simpa using hnames), ← item?_cons, hnone]
              exact item?_eq_none_iff.mpr (hentry names hnames)
          · rw [if_neg hn, if_neg (by simp [hn])]
  | cons n place ih =>
      obtain ⟨below, hroot⟩ := item?_eq_directory_iff.mp hplace
      obtain ⟨entries, child, rfl, hchild, hentries⟩ := exists_directory_of_get?_cons hroot
      have hget : ∀ names, (directory entries).get? (n :: names) = child.get? names := by
        intro names
        rw [get?_cons, hchild, Option.bind_some]
      have hput := ih (item?_eq_directory_iff.mpr ⟨below, hentries⟩)
        fun names hnames => (hget _).symm.trans (hbelow names hnames)
      rw [List.cons_append, put_cons hchild]
      cases other with
      | nil => simp [item?, get?_nil, item]
      | cons m names =>
          rw [item?_cons, item?_cons, lookup_putEntry]
          by_cases hm : m = n
          · subst hm
            rw [if_pos rfl, hchild, Option.bind_some, Option.bind_some, hput]
            simp
          · rw [if_neg hm, if_neg (by simp [hm])]

end SnippetScope.FileTree
