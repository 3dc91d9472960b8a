/-
  SnippetScope.Proofs.FileTree.Routes

  Where steps lead, said as a relation with one rule for each kind of step and
  without a bound on the number of links.  What is found within a bound is
  reached by these rules (`routesTo_of_route`), and in a tree without links the
  rules say no more than that (`LinkFree.leadsTo_iff`).  A tree that has grown
  leads wherever it led before (`LeadsTo.grows`).
-/
import SnippetScope.Proofs.FileTree.Items

namespace SnippetScope.FileTree

/-- The steps lead from a place to a place where they end. -/
inductive RoutesTo (root : FileTree) : Location → (steps : List (List Char)) → Location → Prop where
  | done (place : Location) : RoutesTo root place [] place
  | here {place stop : Location} {rest : List (List Char)}
      (hplace : root.item? place = some .directory) (hrest : RoutesTo root place rest stop) :
      RoutesTo root place (['.'] :: rest) stop
  | parent {place stop : Location} {rest : List (List Char)}
      (hplace : root.item? place = some .directory)
      (hrest : RoutesTo root place.dropLast rest stop) :
      RoutesTo root place (['.', '.'] :: rest) stop
  | enter {place stop : Location} {name : List Char} {rest : List (List Char)} {item : Item}
      (hplace : root.item? place = some .directory)
      (hhere : name ≠ ['.']) (hparent : name ≠ ['.', '.'])
      (hitem : root.item? (place ++ [name]) = some item) (hlink : ∀ target, item ≠ .link target)
      (hrest : RoutesTo root (place ++ [name]) rest stop) :
      RoutesTo root place (name :: rest) stop
  | follow {place stop : Location} {name target : List Char} {rest : List (List Char)}
      (hplace : root.item? place = some .directory)
      (hhere : name ≠ ['.']) (hparent : name ≠ ['.', '.'])
      (hitem : root.item? (place ++ [name]) = some (.link target))
      (hrest : RoutesTo root (origin place target) (steps target ++ rest) stop) :
      RoutesTo root place (name :: rest) stop

/-- The path leads to the place. -/
def LeadsTo (root : FileTree) (here : Location) (path : List Char) (place : Location) : Prop :=
  path ≠ [] ∧ RoutesTo root (origin here path) (steps path) place

/-- The path leads to a file that holds the text. -/
def Holds (root : FileTree) (here : Location) (path : List Char) (text : String) : Prop :=
  ∃ place, root.LeadsTo here path place ∧ root.get? place = some (.file text.toUTF8)

variable {root root' : FileTree} {here place stop : Location} {path : List Char}
  {front rest : List (List Char)}

/-! ## Routes within a bound -/

/-- Steps that are taken one by one follow the rules, if those at links do. -/
theorem routesTo_of_advance
    {onLink : Location → List Char → List (List Char) → Except FileFault Location}
    (honLink : ∀ place target rest stop, onLink place target rest = .ok stop →
      RoutesTo root (origin place target) (steps target ++ rest) stop)
    (h : advance root onLink place rest = .ok stop) : RoutesTo root place rest stop := by
  induction rest generalizing place with
  | nil =>
      rw [advance] at h
      obtain rfl := Except.ok.inj h
      exact .done place
  | cons step rest ih =>
      rw [advance_cons] at h
      split at h
      · rename_i hplace
        split at h
        · rename_i hstep
          exact hstep ▸ .here hplace (ih h)
        · rename_i hhere
          split at h
          · rename_i hstep
            exact hstep ▸ .parent hplace (ih h)
          · rename_i hparent
            split at h
            · cases h
            · rename_i hitem
              exact .follow hplace hhere hparent hitem (honLink _ _ _ _ h)
            · rename_i hlink hitem
              exact .enter hplace hhere hparent hitem hlink (ih h)
      · cases h

theorem routesTo_of_route {links : Nat} (h : route root links place rest = .ok stop) :
    RoutesTo root place rest stop := by
  induction links generalizing place rest stop with
  | zero => exact routesTo_of_advance (fun _ _ _ _ h => by cases h) h
  | succ links ih => exact routesTo_of_advance (fun _ _ _ _ h => ih h) h

theorem leadsTo_of_find (h : root.find here path = .ok place) : root.LeadsTo here path place := by
  rw [find] at h
  split at h
  · cases h
  · rename_i hpath
    exact ⟨by simpa using hpath, routesTo_of_route h⟩

/-- No link stands anywhere. -/
def LinkFree (root : FileTree) : Prop :=
  ∀ place target, root.item? place ≠ some (.link target)

theorem Plain.linkFree (h : root.Plain) : root.LinkFree := by
  intro place target hitem
  exact (h.get? (item?_eq_link_iff.mp hitem)).not_link target rfl

/-- Without links the steps can be taken one by one. -/
theorem RoutesTo.advance_eq (hroot : root.LinkFree)
    {onLink : Location → List Char → List (List Char) → Except FileFault Location}
    (h : RoutesTo root place rest stop) : advance root onLink place rest = .ok stop := by
  induction h with
  | done place => rw [advance]
  | here hplace _ ih =>
      rw [advance_cons, hplace]
      exact ih
  | parent hplace _ ih =>
      rw [advance_cons, hplace]
      exact ih
  | @enter _ _ _ _ item hplace hhere hparent hitem hlink _ ih =>
      rw [advance_cons, hplace]
      simp only [hhere, hparent, if_false, hitem]
      cases item with
      | link target => exact absurd rfl (hlink target)
      | file content => exact ih
      | directory => exact ih
  | follow _ _ _ hitem => exact absurd hitem (hroot _ _)

namespace LinkFree

/-- Without links there is nothing to count, so each path leads to the place
    where it is found. -/
theorem leadsTo_iff (hroot : root.LinkFree) :
    root.LeadsTo here path place ↔ root.find here path = .ok place := by
  refine ⟨fun ⟨hpath, hroute⟩ => ?_, leadsTo_of_find⟩
  rw [find, if_neg (by simpa using hpath)]
  exact hroute.advance_eq hroot

/-- A path that leads to something reaches it. -/
theorem reaches_of_leadsTo (hroot : root.LinkFree) (h : root.LeadsTo here path place) {item : Item}
    (hitem : root.item? place = some item) : root.reaches here path = true := by
  obtain ⟨found, hfound, -⟩ := Option.map_eq_some_iff.mp hitem
  rw [reaches, entry, hroot.leadsTo_iff.mp h]
  simp only [bind, Except.bind, hfound]
  rfl

/-- A text that a path leads to is what is read there. -/
theorem readText_of_holds (hroot : root.LinkFree) {text : String}
    (h : root.Holds here path text) : root.readText here path = .ok text := by
  obtain ⟨place, hlead, hget⟩ := h
  have hutf : String.fromUTF8? text.toUTF8 = some text := by
    rw [String.fromUTF8?, String.toUTF8, dif_pos text.isValidUTF8]
    rfl
  rw [readText, entry, hroot.leadsTo_iff.mp hlead]
  simp only [bind, Except.bind, hget, hutf]

end LinkFree

/-! ## Routes put together -/

/-- Steps that end with a dot end at a directory, from which any others can be
    taken. -/
theorem RoutesTo.append (hfront : RoutesTo root place (front ++ [['.']]) stop) :
    root.item? stop = some .directory
      ∧ ∀ rest last, RoutesTo root stop rest last →
          RoutesTo root place (front ++ rest) last := by
  generalize hsteps : front ++ [['.']] = steps at hfront
  -- The dot is the last step, so it is what is left once no front is.
  induction hfront generalizing front with
  | done place => simp at hsteps
  | here hplace hdone ih =>
      cases front with
      | nil =>
          obtain rfl := (List.cons.inj hsteps).2
          cases hdone
          exact ⟨hplace, fun _ _ h => h⟩
      | cons step front =>
          obtain ⟨rfl, hfront⟩ := List.cons.inj hsteps
          exact (ih hfront).imp_right fun hrest rest last h =>
            .here hplace (hrest rest last h)
  | parent hplace _ ih =>
      cases front with
      | nil => simp at hsteps
      | cons step front =>
          obtain ⟨rfl, hfront⟩ := List.cons.inj hsteps
          exact (ih hfront).imp_right fun hrest rest last h =>
            .parent hplace (hrest rest last h)
  | enter hplace hhere hparent hitem hlink _ ih =>
      cases front with
      | nil => exact absurd (List.cons.inj hsteps).1.symm hhere
      | cons step front =>
          obtain ⟨rfl, hfront⟩ := List.cons.inj hsteps
          exact (ih hfront).imp_right fun hrest rest last h =>
            .enter hplace hhere hparent hitem hlink (hrest rest last h)
  | @follow _ _ _ target rest' hplace hhere hparent hitem _ ih =>
      cases front with
      | nil => exact absurd (List.cons.inj hsteps).1.symm hhere
      | cons step front =>
          obtain ⟨rfl, hfront⟩ := List.cons.inj hsteps
          have hroute : (FileTree.steps target ++ front) ++ [['.']]
              = FileTree.steps target ++ rest' := by
            rw [List.append_assoc, ← hfront]
            rfl
          refine (ih hroute).imp_right fun hrest rest last h =>
            .follow hplace hhere hparent hitem ?_
          have htarget := hrest rest last h
          rwa [List.append_assoc] at htarget

/-- Without links a name leads to an entry that has this name. -/
theorem LinkFree.getLast?_of_routesTo (hroot : root.LinkFree) {name : List Char}
    (hhere : name ≠ ['.']) (hparent : name ≠ ['.', '.'])
    (h : RoutesTo root place (front ++ [name]) stop) : stop.getLast? = some name := by
  generalize hsteps : front ++ [name] = steps at h
  induction h generalizing front with
  | done place => simp at hsteps
  | here _ _ ih =>
      cases front with
      | nil => exact absurd (List.cons.inj hsteps).1 hhere
      | cons step front => exact ih (List.cons.inj hsteps).2
  | parent _ _ ih =>
      cases front with
      | nil => exact absurd (List.cons.inj hsteps).1 hparent
      | cons step front => exact ih (List.cons.inj hsteps).2
  | enter _ _ _ _ _ hrest ih =>
      cases front with
      | nil =>
          obtain ⟨rfl, rfl⟩ := List.cons.inj hsteps
          cases hrest
          exact List.getLast?_concat
      | cons step front => exact ih (List.cons.inj hsteps).2
  | follow _ _ _ hitem => exact absurd hitem (hroot _ _)

/-! ## Grown trees -/

/-- All that stands in the first tree stands in the second one; only the bytes
    of files may differ. -/
structure Grows (root root' : FileTree) : Prop where
  directory : ∀ place, root.item? place = some .directory → root'.item? place = some .directory
  link : ∀ place target, root.item? place = some (.link target) →
    root'.item? place = some (.link target)
  file : ∀ place content, root.item? place = some (.file content) →
    ∃ content', root'.item? place = some (.file content')

theorem RoutesTo.grows (hgrows : Grows root root') (h : RoutesTo root place rest stop) :
    RoutesTo root' place rest stop := by
  induction h with
  | done place => exact .done place
  | here hplace _ ih => exact .here (hgrows.directory _ hplace) ih
  | parent hplace _ ih => exact .parent (hgrows.directory _ hplace) ih
  | @enter place _ name _ item hplace hhere hparent hitem hlink _ ih =>
      cases item with
      | link target => exact absurd rfl (hlink target)
      | directory =>
          exact .enter (hgrows.directory _ hplace) hhere hparent (hgrows.directory _ hitem)
            (by simp) ih
      | file content =>
          obtain ⟨content', hitem'⟩ := hgrows.file _ _ hitem
          exact .enter (hgrows.directory _ hplace) hhere hparent hitem' (by simp) ih
  | follow hplace hhere hparent hitem _ ih =>
      exact .follow (hgrows.directory _ hplace) hhere hparent (hgrows.link _ _ hitem) ih

theorem LeadsTo.grows (hgrows : Grows root root') (h : root.LeadsTo here path place) :
    root'.LeadsTo here path place :=
  ⟨h.1, h.2.grows hgrows⟩

/-! ## Routes to what was there before -/

/-- Above a file stand directories. -/
theorem directory_of_isPrefix {content : ByteArray} (hplace : place <+: stop)
    (hstop : root.item? stop = some (.file content)) :
    root.item? place = some .directory ∨ place = stop := by
  obtain ⟨names, rfl⟩ := hplace
  by_cases hnames : names = []
  · exact .inr (by rw [hnames, List.append_nil])
  · refine .inl (Classical.byContradiction fun hplace => ?_)
    rw [item?_eq_none_iff.mpr (get?_below_eq_none hplace hnames)] at hstop
    cases hstop

/-- Steps that never go back pass above their end only.  So they led to a file
    that was there before the tree has grown. -/
theorem RoutesTo.of_descent (hgrows : Grows root root') (hfree : root'.LinkFree)
    {content : ByteArray} (hstop : root.item? stop = some (.file content))
    (h : RoutesTo root' place rest stop) (hback : ['.', '.'] ∉ rest) :
    RoutesTo root place rest stop ∧ place <+: stop := by
  obtain ⟨content', hstop'⟩ := hgrows.file _ _ hstop
  -- A directory on the way is not the file at the end.
  have hdirectory : ∀ {p}, p <+: stop → root'.item? p = some .directory →
      root.item? p = some .directory := by
    intro p hp hitem
    rcases directory_of_isPrefix hp hstop with h | rfl
    · exact h
    · rw [hstop'] at hitem
      cases hitem
  induction h with
  | done place => exact ⟨.done place, List.prefix_refl place⟩
  | here hplace _ ih =>
      obtain ⟨hroute, hbelow⟩ := ih hstop (List.not_mem_of_not_mem_cons hback) hstop' hdirectory
      exact ⟨.here (hdirectory hbelow hplace) hroute, hbelow⟩
  | parent => exact absurd List.mem_cons_self hback
  | @enter place stop name rest item hplace hhere hparent hitem hlink _ ih =>
      obtain ⟨hroute, hbelow⟩ := ih hstop (List.not_mem_of_not_mem_cons hback) hstop' hdirectory
      have habove : place <+: stop := (List.prefix_append place [name]).trans hbelow
      refine ⟨?_, habove⟩
      rcases directory_of_isPrefix hbelow hstop with hname | rfl
      · exact .enter (hdirectory habove hplace) hhere hparent hname (by simp) hroute
      · exact .enter (hdirectory habove hplace) hhere hparent hstop (by simp) hroute
  | follow _ _ _ hitem => exact absurd hitem (hfree _ _)

/-- Steps through directories that were all there led to the same file before
    the tree has grown. -/
theorem RoutesTo.of_directories (hfree : root'.LinkFree)
    (hkept : ∀ p, root'.item? p = some .directory → root.item? p = some .directory)
    {content : ByteArray} (hstop : root.item? stop = some (.file content))
    (h : RoutesTo root' place rest stop) : RoutesTo root place rest stop := by
  induction h with
  | done place => exact .done place
  | here hplace _ ih => exact .here (hkept _ hplace) (ih hstop)
  | parent hplace _ ih => exact .parent (hkept _ hplace) (ih hstop)
  | @enter _ _ _ _ item hplace hhere hparent hitem hlink hrest ih =>
      cases item with
      | link target => exact absurd rfl (hlink target)
      | directory => exact .enter (hkept _ hplace) hhere hparent (hkept _ hitem) (by simp) (ih hstop)
      | file content' =>
          -- Nothing leads on from a file, so this is the end.
          cases hrest with
          | done => exact .enter (hkept _ hplace) hhere hparent hstop (by simp) (.done _)
          | here hfile | parent hfile | enter hfile | follow hfile =>
              rw [hitem] at hfile
              cases hfile
  | follow _ _ _ hitem => exact absurd hitem (hfree _ _)

end SnippetScope.FileTree
