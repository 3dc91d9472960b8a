/-
  SnippetScope.Proofs.Command.DrawingPaths

  The paths of several drawings.  Each is that of a file next to the one that is
  asked for, and its name tells the number of the drawing: the number is what
  stands between the common stem and the next dash (`drawingName_injective`),
  whatever the stems and the sources are.  So the paths differ
  (`drawingPaths_side_by_side`), and without links they lead to different
  files.
-/
import SnippetScope.Proofs.Command.Targets
import SnippetScope.Proofs.FilePath.Siblings

namespace SnippetScope.Command

open FilePath (components directoryComponents ProperName)
open Text (splitAt)

variable {base stem : List Char}

/-! ## Names -/

/-- What stands in the name of a drawing before its extension. -/
def nameFront (stem : List Char) (number : Nat) (source : Option (List Char)) : List Char :=
  stem ++ '-' :: Nat.toDigits 10 number
    ++ '-' :: ((source.bind FilePath.stem?).getD (Nat.toDigits 10 number)) ++ ['.']

theorem drawingName_eq (stem : List Char) (number : Nat) (source : Option (List Char))
    (extension : String) :
    drawingName stem number source extension = nameFront stem number source ++ extension.toList := by
  simp [drawingName, nameFront]

theorem notMem_toDigits {c : Char} (h : c.isDigit = false) (number : Nat) :
    c ∉ Nat.toDigits 10 number := by
  intro hc
  rw [Nat.isDigit_of_mem_toDigits (by omega) (by omega) hc] at h
  cases h

/-- The number is what stands up to the first dash behind the stem. -/
theorem splitAt_dash (stem : List Char) (number : Nat) (source : Option (List Char)) (more : List Char) :
    ∃ rest, nameFront stem number source ++ more = stem ++ '-' :: rest
      ∧ (splitAt '-' rest).head? = some (Nat.toDigits 10 number) := by
  refine ⟨Nat.toDigits 10 number ++ '-' :: (((source.bind FilePath.stem?).getD
    (Nat.toDigits 10 number) ++ ['.']) ++ more), by simp [nameFront], ?_⟩
  rw [Text.splitAt_append (notMem_toDigits (by decide) number)]
  rfl

/-- No two numbers give the same name, whatever follows them. -/
theorem nameFront_injective {number number' : Nat} {source source' : Option (List Char)}
    {more more' : List Char}
    (h : nameFront stem number source ++ more = nameFront stem number' source' ++ more') :
    number = number' := by
  obtain ⟨rest, hname, hdigits⟩ := splitAt_dash stem number source more
  obtain ⟨rest', hname', hdigits'⟩ := splitAt_dash stem number' source' more'
  have hrest : rest = rest' := by
    rw [hname, hname'] at h
    exact (List.cons.inj (List.append_cancel_left h)).2
  rw [hrest, hdigits', Option.some.injEq] at hdigits
  rw [← Nat.ofDigitChars_ten_toDigits (n := number), ← hdigits, Nat.ofDigitChars_ten_toDigits]

theorem slash_notMem_nameFront (hstem : '/' ∉ stem) (number : Nat) (source : Option (List Char)) :
    '/' ∉ nameFront stem number source := by
  have hdigits := notMem_toDigits (c := '/') (by decide) number
  have hsource : '/' ∉ (source.bind FilePath.stem?).getD (Nat.toDigits 10 number) := by
    cases hfile : source.bind FilePath.stem? with
    | none => exact hdigits
    | some name =>
        obtain ⟨path, -, hname⟩ := Option.bind_eq_some_iff.mp hfile
        exact FilePath.notMem_of_stem? hname
  simp [nameFront, hstem, hdigits, hsource]

theorem dash_mem_nameFront (stem : List Char) (number : Nat) (source : Option (List Char)) :
    '-' ∈ nameFront stem number source := by
  simp [nameFront]

/-- What starts like the name of a drawing can stand in a path. -/
theorem properName_nameFront {ending : List Char} {number : Nat} {source : Option (List Char)}
    (h : '/' ∉ nameFront stem number source ++ ending) :
    ProperName (nameFront stem number source ++ ending) := by
  have hdash : '-' ∈ nameFront stem number source ++ ending :=
    List.mem_append_left _ (dash_mem_nameFront stem number source)
  refine ⟨List.ne_nil_of_mem hdash, h, fun heq => ?_, fun heq => ?_⟩ <;>
    rw [heq] at hdash <;> simp at hdash

/-- A slash in the extension cuts the name; the number is in its first piece,
    and what follows it is the same for all drawings. -/
theorem exists_splitAt_drawingName (hstem : '/' ∉ stem) (extension : String) :
    ∃ ending more, ∀ number source,
      splitAt '/' (drawingName stem number source extension)
          = (nameFront stem number source ++ ending) :: more
        ∧ ProperName (nameFront stem number source ++ ending) := by
  obtain ⟨ending, more, hextension⟩ :=
    List.exists_cons_of_ne_nil (Text.splitAt_ne_nil '/' extension.toList)
  refine ⟨ending, more, fun number source => ?_⟩
  have hsplit : splitAt '/' (drawingName stem number source extension)
      = (nameFront stem number source ++ ending) :: more := by
    rw [drawingName_eq]
    exact Text.splitAt_append_of_not_mem (slash_notMem_nameFront hstem number source) hextension
  exact ⟨hsplit, properName_nameFront
    (FilePath.slash_notMem_of_splitAt hsplit List.mem_cons_self)⟩

theorem properName_drawingName (hstem : '/' ∉ stem) {extension : String}
    (hextension : '/' ∉ extension.toList) (number : Nat) (source : Option (List Char)) :
    ProperName (drawingName stem number source extension) := by
  rw [drawingName_eq]
  refine properName_nameFront fun hslash => ?_
  rcases List.mem_append.mp hslash with h | h
  · exact slash_notMem_nameFront hstem number source h
  · exact hextension h

/-- A drawing is put in the directory of the path that is asked for, or below
    it if the extension leads on. -/
theorem components_drawing (hstem : '/' ∉ stem) (number : Nat) (source : Option (List Char))
    (extension : String) :
    components (FilePath.withFileName base (drawingName stem number source extension))
      = directoryComponents base ++ components (drawingName stem number source extension) := by
  obtain ⟨ending, more, hpieces⟩ := exists_splitAt_drawingName hstem extension
  obtain ⟨hsplit, hproper⟩ := hpieces number source
  exact FilePath.components_withFileName hsplit hproper.ne_nil hproper.ne_here

theorem number_of_components (hstem : '/' ∉ stem) {number number' : Nat}
    {source source' : Option (List Char)} {extension : String}
    (h : components (drawingName stem number source extension)
      = components (drawingName stem number' source' extension)) : number = number' := by
  obtain ⟨ending, more, hpieces⟩ := exists_splitAt_drawingName hstem extension
  have hcomponents : ∀ number source, components (drawingName stem number source extension)
      = .named (nameFront stem number source ++ ending) :: FilePath.stepsOf more := by
    intro number source
    obtain ⟨hsplit, hproper⟩ := hpieces number source
    rw [FilePath.components_eq_stepsOf, hsplit, FilePath.stepsOf,
      List.filterMap_cons_some hproper.ofPiece_eq]
    simp [FilePath.leading, hproper.ne_nil, hproper.ne_here, FilePath.stepsOf]
  rw [hcomponents, hcomponents] at h
  exact nameFront_injective (FilePath.Component.named.inj (List.cons.inj h).1)

/-- Without links a drawing is found under its own name. -/
theorem getLast?_drawing (hstem : '/' ∉ stem) {extension : String}
    (hextension : '/' ∉ extension.toList) {number : Nat} {source : Option (List Char)}
    {tree : FileTree} (htree : tree.LinkFree) {here place : FileTree.Location}
    (h : tree.LeadsTo here
      (FilePath.withFileName base (drawingName stem number source extension)) place) :
    place.getLast? = some (drawingName stem number source extension) := by
  have hproper := properName_drawingName hstem hextension number source
  obtain ⟨front, hfront⟩ := FilePath.exists_steps_withFileName base hproper
  have hroute := h.2
  rw [hfront] at hroute
  exact htree.getLast?_of_routesTo hproper.ne_here hproper.ne_parent hroute

/-! ## Paths side by side -/

theorem slash_notMem_stem (base : List Char) :
    '/' ∉ (FilePath.stem? base).getD "diagram".toList := by
  cases hstem : FilePath.stem? base with
  | none => decide
  | some stem => exact FilePath.notMem_of_stem? hstem

theorem drawingPaths_eq (base : List Char) (extension : String) {sources : List (Option (List Char))}
    (h : 2 ≤ sources.length) :
    drawingPaths base sources extension
      = numberedPaths base ((FilePath.stem? base).getD "diagram".toList) extension 0 sources := by
  match sources with
  | [] => simp at h
  | [_] => simp at h
  | _ :: _ :: _ => rfl

/-- Each path tells the number of its drawing and where it comes from. -/
theorem getElem?_numberedPaths (base stem : List Char) (extension : String) (number i : Nat)
    (sources : List (Option (List Char))) :
    (numberedPaths base stem extension number sources)[i]?
      = sources[i]?.map fun source =>
          FilePath.withFileName base (drawingName stem (number + i) source extension) := by
  induction sources generalizing number i with
  | nil => rfl
  | cons source rest ih =>
      cases i with
      | zero => rfl
      | succ i =>
          rw [numberedPaths, List.getElem?_cons_succ, List.getElem?_cons_succ, ih,
            Nat.add_right_comm, Nat.add_assoc]

theorem pairwise_numberedPaths {extension : String} {R : List Char → List Char → Prop}
    (h : ∀ i j source source', i ≠ j →
      R (FilePath.withFileName base (drawingName stem i source extension))
        (FilePath.withFileName base (drawingName stem j source' extension)))
    (sources : List (Option (List Char))) :
    (numberedPaths base stem extension 0 sources).Pairwise R := by
  have hpath : ∀ i (hi : i < (numberedPaths base stem extension 0 sources).length), ∃ source,
      FilePath.withFileName base (drawingName stem i source extension)
        = (numberedPaths base stem extension 0 sources)[i] := by
    intro i hi
    have hget := getElem?_numberedPaths base stem extension 0 i sources
    rw [List.getElem?_eq_getElem hi, Nat.zero_add] at hget
    obtain ⟨source, -, hsource⟩ := Option.map_eq_some_iff.mp hget.symm
    exact ⟨source, hsource⟩
  rw [List.pairwise_iff_getElem]
  intro i j hi hj hlt
  obtain ⟨source, hsource⟩ := hpath i hi
  obtain ⟨source', hsource'⟩ := hpath j hj
  rw [← hsource, ← hsource']
  exact h i j source source' (by omega)

/-- The drawings of several analyses get one path each, in their order.  Each is
    that of a file in the directory of the given path, named after the number
    of its analysis; an extension with slashes only leads on below it.  No two
    of the paths are the same, and no two lead to one file in a tree without
    links. -/
theorem drawingPaths_side_by_side (base : List Char) (extension : String)
    {analyses : List Analysis} (h : 2 ≤ analyses.length) :
    let sources := analyses.map fun a => a.path.map (·.toList)
    let stem := (FilePath.stem? base).getD "diagram".toList
    let paths := drawingPaths base sources extension
    paths.length = analyses.length
      ∧ (∀ i path, paths[i]? = some path → ∃ source, sources[i]? = some source
          ∧ components path = directoryComponents base
              ++ components (drawingName stem i source extension)
          ∧ ('/' ∉ extension.toList → components (drawingName stem i source extension)
              = [.named (drawingName stem i source extension)]))
      ∧ paths.Pairwise (fun path other => components path ≠ components other)
      ∧ ('/' ∉ extension.toList →
          ∀ tree here, FileTree.LinkFree tree → Apart tree here paths) := by
  intro sources stem paths
  have hstem : '/' ∉ stem := slash_notMem_stem base
  have hpaths : paths = numberedPaths base stem extension 0 sources :=
    drawingPaths_eq base extension (by simpa [sources] using h)
  refine ⟨?_, fun i path hpath => ?_, ?_, fun hextension tree here htree => ?_⟩
  · rw [length_drawingPaths, List.length_map]
  · rw [hpaths, getElem?_numberedPaths, Nat.zero_add] at hpath
    obtain ⟨source, hsource, rfl⟩ := Option.map_eq_some_iff.mp hpath
    exact ⟨source, hsource, components_drawing hstem i source extension, fun hextension =>
      (properName_drawingName hstem hextension i source).components_eq⟩
  · rw [hpaths]
    refine pairwise_numberedPaths (fun i j source source' hne hsame => hne ?_) sources
    rw [components_drawing hstem, components_drawing hstem] at hsame
    exact number_of_components hstem (List.append_cancel_left hsame)
  · rw [Apart, hpaths]
    refine pairwise_numberedPaths (fun i j source source' hne place hleads hleads' => hne ?_) sources
    -- The place would have two names.
    have hlast := getLast?_drawing hstem hextension htree hleads
    have hlast' := getLast?_drawing hstem hextension htree hleads'
    have hsame : drawingName stem i source extension = drawingName stem j source' extension :=
      Option.some.inj (hlast.symm.trans hlast')
    exact number_of_components hstem (by rw [hsame])

/-- A snippet from a file whose stem looks like another number, and one that
    comes from no file. -/
def lookalikes : List Analysis :=
  [.ofSource {} { text := "", fileName := some "src/1-1.c" }, .ofSource {} { text := "" }]

theorem drawingPaths_side_by_side_lookalikes :
    let paths := drawingPaths "out/d.svg".toList (lookalikes.map fun a => a.path.map (·.toList))
      drawingExtension
    2 ≤ lookalikes.length
      ∧ paths = ["out/d-0-1-1.svg".toList, "out/d-1-1.svg".toList]
      ∧ paths.Pairwise fun path other => components path ≠ components other := by
  have htwo : 2 ≤ lookalikes.length := by decide
  obtain ⟨-, -, hpairwise, -⟩ :=
    drawingPaths_side_by_side "out/d.svg".toList drawingExtension htwo
  exact ⟨htwo, by decide, hpairwise⟩

end SnippetScope.Command
