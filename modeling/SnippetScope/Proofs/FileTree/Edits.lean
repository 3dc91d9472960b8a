/-
  SnippetScope.Proofs.FileTree.Edits

  What making directories and writing files can do to a tree (`Edits`).  Each
  place is left as it is, or is a directory that was missing and to which one
  of the paths leads, or is a file to which one of the paths leads and that
  holds the text for it.  Each operation keeps to this, and so do operations
  one after the other (`Edits.trans`), since where a path leads it leads on
  after further edits (`Edits.grows`).
-/
import SnippetScope.FileTree.Change
import SnippetScope.Proofs.FileTree.Routes

namespace SnippetScope.FileTree

/-- What may have become of a place when directories are made for some paths
    and texts are written to some paths. -/
inductive Edit (here : Location) (makes : List Char → Prop) (writes : List Char → String → Prop)
    (root root' : FileTree) (place : Location) : Prop where
  | same (h : root'.item? place = root.item? place)
  | made {path : List Char} (hpath : makes path) (hleads : root'.LeadsTo here path place)
      (hbefore : root.item? place = none) (hafter : root'.item? place = some .directory)
  | written {path : List Char} {text : String} (hpath : writes path text)
      (hleads : root'.LeadsTo here path place)
      (hbefore : ∀ item, root.item? place = some item → ∃ content, item = .file content)
      (hafter : root'.item? place = some (.file text.toUTF8))

/-- Nothing else has become of any place. -/
def Edits (here : Location) (makes : List Char → Prop) (writes : List Char → String → Prop)
    (root root' : FileTree) : Prop :=
  ∀ place, Edit here makes writes root root' place

namespace Edits

variable {here : Location} {makes makes' : List Char → Prop}
  {writes writes' : List Char → String → Prop} {root root' root'' : FileTree}

theorem refl (root : FileTree) : Edits here makes writes root root :=
  fun _ => .same rfl

theorem mono (h : Edits here makes writes root root') (hmakes : ∀ path, makes path → makes' path)
    (hwrites : ∀ path text, writes path text → writes' path text) :
    Edits here makes' writes' root root' := by
  intro place
  cases h place with
  | same h => exact .same h
  | made hpath hleads hbefore hafter => exact .made (hmakes _ hpath) hleads hbefore hafter
  | written hpath hleads hbefore hafter =>
      exact .written (hwrites _ _ hpath) hleads hbefore hafter

/-- Nothing is lost by edits. -/
theorem grows (h : Edits here makes writes root root') : Grows root root' := by
  refine ⟨fun place hplace => ?_, fun place target hplace => ?_, fun place content hplace => ?_⟩
  · cases h place with
    | same h => rw [h, hplace]
    | made _ _ _ hafter => exact hafter
    | written _ _ hbefore _ =>
        obtain ⟨content, hfile⟩ := hbefore _ hplace
        cases hfile
  · cases h place with
    | same h => rw [h, hplace]
    | made _ _ hbefore _ =>
        rw [hbefore] at hplace
        cases hplace
    | written _ _ hbefore _ =>
        obtain ⟨content, hfile⟩ := hbefore _ hplace
        cases hfile
  · cases h place with
    | same h => exact ⟨content, h.trans hplace⟩
    | made _ _ hbefore _ =>
        rw [hbefore] at hplace
        cases hplace
    | written _ _ _ hafter => exact ⟨_, hafter⟩

/-- Edits make no links. -/
theorem linkFree (h : Edits here makes writes root root') (hroot : root.LinkFree) :
    root'.LinkFree := by
  intro place target hitem
  cases h place with
  | same hsame => exact hroot place target (hsame.symm.trans hitem)
  | made _ _ _ hafter =>
      rw [hafter] at hitem
      cases hitem
  | written _ _ _ hafter =>
      rw [hafter] at hitem
      cases hitem

/-- If nothing is written, the files are those that were there. -/
theorem file_iff (h : Edits here makes (fun _ _ => False) root root') {place : Location}
    {content : ByteArray} :
    root'.item? place = some (.file content) ↔ root.item? place = some (.file content) := by
  cases h place with
  | same h => rw [h]
  | made _ _ hbefore hafter => simp [hbefore, hafter]
  | written hpath => exact hpath.elim

/-- Edits after edits are edits for the paths of both. -/
theorem trans (h : Edits here makes writes root root')
    (h' : Edits here makes writes root' root'') : Edits here makes writes root root'' := by
  intro place
  have hgrows := h'.grows
  cases h' place with
  | same hsame =>
      cases h place with
      | same h => exact .same (hsame.trans h)
      | made hpath hleads hbefore hafter =>
          exact .made hpath (hleads.grows hgrows) hbefore (hsame.trans hafter)
      | written hpath hleads hbefore hafter =>
          exact .written hpath (hleads.grows hgrows) hbefore (hsame.trans hafter)
  | made hpath hleads hbefore hafter =>
      -- What was missing after the first edits was missing before them.
      refine .made hpath hleads ?_ hafter
      cases h place with
      | same h => rw [← h, hbefore]
      | made _ _ hbefore' _ => exact hbefore'
      | written _ _ _ hafter' =>
          rw [hbefore] at hafter'
          cases hafter'
  | written hpath hleads hbefore hafter =>
      refine .written hpath hleads (fun item hitem => ?_) hafter
      cases h place with
      | same h => exact hbefore item (h.trans hitem)
      | made _ _ hbefore' _ =>
          rw [hbefore'] at hitem
          cases hitem
      | written _ _ hbefore' _ => exact hbefore' item hitem

end Edits

variable {root root' : FileTree} {here place : Location} {path : List Char}

/-! ## The last step of a path -/

/-- The path goes to a directory and on from there with a name. -/
structure EndsWith (root : FileTree) (here : Location) (path : List Char) (e : Ending) :
    Prop where
  path_ne_nil : path ≠ []
  routes : ∃ front, RoutesTo root (origin here path) (front ++ [['.']]) e.place
    ∧ steps path = front ++ e.last :: (if path.getLast? = some '/' then [['.']] else [])
  ne_here : e.last ≠ ['.']
  ne_parent : e.last ≠ ['.', '.']

theorem endsWith_of_ending? {e : Ending} (h : ending? root here path = .ok (some e)) :
    EndsWith root here path e := by
  rw [ending?] at h
  simp only [bind, Except.bind, pure, Except.pure] at h
  generalize hnamed : (Text.splitAt '/' path).filter (!·.isEmpty) = named at h
  cases hlast : named.getLast? with
  | none => simp [hlast] at h
  | some last =>
      obtain ⟨front, rfl⟩ := List.getLast?_eq_some_iff.mp hlast
      simp only [hlast, List.dropLast_concat] at h
      cases hroute : route root linkLimit (origin here path) (front ++ [['.']]) with
      | error fault => simp [hroute] at h
      | ok place =>
          simp only [hroute] at h
          split at h
          · cases h
          · rename_i hdots
            obtain rfl := Option.some.inj (Except.ok.inj h)
            refine ⟨?_, ⟨front, routesTo_of_route hroute, ?_⟩, fun h => hdots (.inl h),
              fun h => hdots (.inr h)⟩
            · rintro rfl
              simp [Text.splitAt] at hnamed
            · rw [steps, hnamed]
              by_cases hslash : path.getLast? = some '/' <;> simp [hslash]

namespace EndsWith

variable {e : Ending}

theorem directory (h : EndsWith root here path e) : root.item? e.place = some .directory := by
  obtain ⟨front, hroute, -⟩ := h.routes
  exact hroute.append.1

/-- In a grown tree the path leads to what stands under its last name, if it is
    a directory, or a file and no slash follows. -/
theorem leadsTo (h : EndsWith root here path e) (hgrows : Grows root root') {item : Item}
    (hitem : root'.item? (e.place ++ [e.last]) = some item) (hlink : ∀ target, item ≠ .link target)
    (hslash : path.getLast? = some '/' → item = .directory) :
    root'.LeadsTo here path (e.place ++ [e.last]) := by
  obtain ⟨front, hroute, hsteps⟩ := h.routes
  refine ⟨h.path_ne_nil, ?_⟩
  rw [hsteps]
  refine (hroute.grows hgrows).append.2 _ _ (.enter (hgrows.directory _ h.directory) h.ne_here
    h.ne_parent hitem hlink ?_)
  split
  · rename_i hlast
    obtain rfl := hslash hlast
    exact .here hitem (.done _)
  · exact .done _

/-- In a grown tree the path leads on over a link under its last name. -/
theorem leadsTo_link (h : EndsWith root here path e) (hgrows : Grows root root')
    {target : List Char} (hitem : root'.item? (e.place ++ [e.last]) = some (.link target))
    (hslash : path.getLast? ≠ some '/') (htarget : root'.LeadsTo e.place target place) :
    root'.LeadsTo here path place := by
  obtain ⟨front, hroute, hsteps⟩ := h.routes
  refine ⟨h.path_ne_nil, ?_⟩
  rw [hsteps, if_neg hslash]
  refine (hroute.grows hgrows).append.2 _ _ (.follow (hgrows.directory _ h.directory) h.ne_here
    h.ne_parent hitem ?_)
  rw [List.append_nil]
  exact htarget.2

end EndsWith

/-- An entry with nothing below it is put under the last name of a path, where
    nothing stands, or a file that it replaces by another one.  It stands there
    from then on, and all other places are left alone. -/
theorem EndsWith.put {e : Ending} (h : EndsWith root here path e) (entry : FileTree)
    (hentry : ∀ names, names ≠ [] → entry.get? names = none)
    (hbefore : ∀ item, root.item? (e.place ++ [e.last]) = some item →
      (∃ content, item = .file content) ∧ ∃ content, entry = .file content) :
    Grows root (put entry root (e.place ++ [e.last]))
      ∧ (put entry root (e.place ++ [e.last])).item? (e.place ++ [e.last]) = some entry.item
      ∧ ∀ other, other ≠ e.place ++ [e.last] →
          (FileTree.put entry root (e.place ++ [e.last])).item? other = root.item? other := by
  have hdirectory : root.item? (e.place ++ [e.last]) ≠ some .directory := by
    intro hitem
    obtain ⟨⟨content, hfile⟩, -⟩ := hbefore _ hitem
    cases hfile
  have hput := item?_put h.directory hentry fun _ hne => get?_below_eq_none hdirectory hne
  have hself := (hput (e.place ++ [e.last])).trans (if_pos rfl)
  have hother : ∀ other, other ≠ e.place ++ [e.last] →
      (FileTree.put entry root (e.place ++ [e.last])).item? other = root.item? other :=
    fun other hne => (hput other).trans (if_neg hne)
  refine ⟨⟨fun place hplace => ?_, fun place target hplace => ?_, fun place content hplace => ?_⟩,
    hself, hother⟩
  · rw [hother place fun heq => hdirectory (heq ▸ hplace), hplace]
  · rw [hother place, hplace]
    rintro rfl
    obtain ⟨⟨content, hfile⟩, -⟩ := hbefore _ hplace
    cases hfile
  · by_cases heq : place = e.place ++ [e.last]
    · subst heq
      obtain ⟨-, content', rfl⟩ := hbefore _ hplace
      exact ⟨content', hself⟩
    · exact ⟨content, (hother place heq).trans hplace⟩

/-! ## Making directories -/

/-- The path of a directory around what a path leads to, by its text alone. -/
inductive Encloses : (path enclosing : List Char) → Prop where
  | parent {path enclosing : List Char} (h : FilePath.parent? path = some enclosing) :
      Encloses path enclosing
  | beyond {path between enclosing : List Char} (h : FilePath.parent? path = some between)
      (hrest : Encloses between enclosing) : Encloses path enclosing

/-- A directory is made under a name that is free, and nothing else. -/
theorem edits_makeDirectory (h : makeDirectory root here path = .ok root') :
    Edits here (· = path) (fun _ _ => False) root root' := by
  rw [makeDirectory] at h
  cases hending : ending? root here path with
  | error fault => simp [hending, bind, Except.bind] at h
  | ok ending =>
      cases ending with
      | none => simp [hending, bind, Except.bind] at h
      | some e =>
          simp only [hending, bind, Except.bind] at h
          split at h
          · cases h
          · rename_i hfree
            obtain rfl := Except.ok.inj h
            have hends := endsWith_of_ending? hending
            have hbefore : root.item? (e.place ++ [e.last]) = none := by
              rw [item?_eq_none_iff]
              simpa using hfree
            obtain ⟨hgrows, hself, hother⟩ := hends.put (.directory [])
              (fun names hne => by cases names <;> simp_all [get?]) (by simp [hbefore])
            intro place
            by_cases hplace : place = e.place ++ [e.last]
            · subst hplace
              exact .made rfl (hends.leadsTo hgrows hself (by simp [item]) fun _ => rfl)
                hbefore hself
            · exact .same (hother place hplace)

theorem edits_ensureDirectory (h : ensureDirectory root here path = .ok root') :
    Edits here (· = path) (fun _ _ => False) root root' := by
  rw [ensureDirectory] at h
  split at h
  · rename_i hmake
    obtain rfl := Except.ok.inj h
    exact edits_makeDirectory hmake
  · split at h
    · obtain rfl := Except.ok.inj h
      exact .refl root
    · cases h

theorem edits_ensureAll (root : FileTree) (here : Location) (paths : List (List Char)) :
    Edits here (· ∈ paths) (fun _ _ => False) root (ensureAll root here paths).tree := by
  induction paths generalizing root with
  | nil => exact .refl root
  | cons path shorter ih =>
      have hone : ∀ {root root'}, ensureDirectory root here path = .ok root' →
          Edits here (· ∈ path :: shorter) (fun _ _ => False) root root' := fun h =>
        (edits_ensureDirectory h).mono (fun _ heq => heq ▸ List.mem_cons_self) fun _ _ h => h
      have hshorter : Edits here (· ∈ path :: shorter) (fun _ _ => False) root
          (ensureAll root here shorter).tree :=
        (ih root).mono (fun _ => List.mem_cons_of_mem path) fun _ _ h => h
      rw [ensureAll]
      split
      · rename_i h
        exact hone h
      · -- The directories around it come first; it is tried again after them.
        dsimp only
        split
        · exact hshorter
        · split
          · rename_i h
            exact hshorter.trans (hone h)
          · exact hshorter
      · exact .refl root

theorem mem_lineage {fuel : Nat} {path enclosing : List Char}
    (h : enclosing ∈ lineage fuel path) : enclosing = path ∨ Encloses path enclosing := by
  induction fuel generalizing path with
  | zero => simp [lineage] at h
  | succ fuel ih =>
      rw [lineage] at h
      split at h
      · simp at h
      · split at h
        · rename_i between hparent
          rcases List.mem_cons.mp h with rfl | h
          · exact .inl rfl
          · rcases ih h with rfl | hrest
            · exact .inr (.parent hparent)
            · exact .inr (.beyond hparent hrest)
        · exact .inl (List.mem_singleton.mp h)

theorem edits_ensurePath (root : FileTree) (here : Location) (path : List Char) :
    Edits here (fun enclosing => enclosing = path ∨ Encloses path enclosing) (fun _ _ => False)
      root (ensurePath root here path).tree :=
  (edits_ensureAll root here _).mono (fun _ => mem_lineage) fun _ _ h => h

/-! ## Writing files -/

/-- A path is written to under its last name, or where the link leads that
    stands there. -/
theorem writePlace_cases {links : Nat} (h : writePlace root links here path = .ok place) :
    ∃ e, EndsWith root here path e ∧ path.getLast? ≠ some '/'
      ∧ ((place = e.place ++ [e.last]
          ∧ ∀ item, root.item? place = some item → ∃ content, item = .file content)
        ∨ ∃ target fewer, links = fewer + 1
          ∧ root.item? (e.place ++ [e.last]) = some (.link target)
          ∧ writePlace root fewer e.place target = .ok place) := by
  rw [writePlace] at h
  cases hending : ending? root here path with
  | error fault => simp [hending, bind, Except.bind] at h
  | ok ending =>
      cases ending with
      | none => simp [hending, bind, Except.bind] at h
      | some e =>
          simp only [hending, bind, Except.bind] at h
          split at h
          · cases h
          · rename_i hslash
            refine ⟨e, endsWith_of_ending? hending, hslash, ?_⟩
            split at h
            · cases h
            · rename_i target hlink
              cases links with
              | zero => cases h
              | succ fewer => exact .inr ⟨target, fewer, rfl, item?_eq_link_iff.mpr hlink, h⟩
            · rename_i hdirectory hlink
              obtain rfl := Except.ok.inj h
              refine .inl ⟨rfl, fun item hitem => ?_⟩
              cases item with
              | file content => exact ⟨content, rfl⟩
              | link target => exact absurd (item?_eq_link_iff.mp hitem) (hlink target)
              | directory =>
                  obtain ⟨entries, hentries⟩ := item?_eq_directory_iff.mp hitem
                  exact absurd hentries (hdirectory entries)

/-- The place of a file that is written to lies in a directory and is free or
    holds a file, and the path leads there once a file is there. -/
theorem writePlace_spec {links : Nat} (h : writePlace root links here path = .ok place) :
    (∃ e start route, EndsWith root start route e ∧ place = e.place ++ [e.last])
      ∧ (∀ item, root.item? place = some item → ∃ content, item = .file content)
      ∧ ∀ {root' content}, Grows root root' → root'.item? place = some (.file content) →
          root'.LeadsTo here path place := by
  induction links generalizing here path with
  | zero =>
      obtain ⟨e, hends, hslash, ⟨rfl, hbefore⟩ | ⟨target, fewer, hlinks, -⟩⟩ := writePlace_cases h
      · exact ⟨⟨e, here, path, hends, rfl⟩, hbefore, fun hgrows hitem =>
          hends.leadsTo hgrows hitem (by simp) fun hlast => absurd hlast hslash⟩
      · cases hlinks
  | succ links ih =>
      obtain ⟨e, hends, hslash, ⟨rfl, hbefore⟩ | ⟨target, fewer, hlinks, hitem, hrest⟩⟩ :=
        writePlace_cases h
      · exact ⟨⟨e, here, path, hends, rfl⟩, hbefore, fun hgrows hitem =>
          hends.leadsTo hgrows hitem (by simp) fun hlast => absurd hlast hslash⟩
      · obtain rfl := Nat.succ.inj hlinks
        obtain ⟨hplace, hbefore, hleads⟩ := ih hrest
        exact ⟨hplace, hbefore, fun hgrows hfile =>
          hends.leadsTo_link hgrows (hgrows.link _ _ hitem) hslash (hleads hgrows hfile)⟩

/-- A text is written to a file to which the path leads from then on, and
    nothing else has changed. -/
theorem edits_writeText {text : String} (h : writeText root here path text = .ok root') :
    Edits here (fun _ => False) (fun path' text' => path' = path ∧ text' = text) root root'
      ∧ root'.Holds here path text := by
  rw [writeText] at h
  cases hwrite : writePlace root linkLimit here path with
  | error fault => simp [hwrite, bind, Except.bind] at h
  | ok place =>
      simp only [hwrite, bind, Except.bind, pure, Except.pure] at h
      obtain rfl := Except.ok.inj h
      obtain ⟨⟨e, start, route, hends, rfl⟩, hbefore, hleads⟩ := writePlace_spec hwrite
      obtain ⟨hgrows, hself, hother⟩ := hends.put (.file text.toUTF8)
        (fun names hne => by cases names <;> simp_all [get?])
        fun item hitem => ⟨hbefore item hitem, _, rfl⟩
      have hpath := hleads hgrows hself
      refine ⟨fun place => ?_, _, hpath, item?_eq_file_iff.mp hself⟩
      by_cases hplace : place = e.place ++ [e.last]
      · subst hplace
        exact .written ⟨rfl, rfl⟩ hpath hbefore hself
      · exact .same (hother place hplace)

end SnippetScope.FileTree
