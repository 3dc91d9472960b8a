/-
  SnippetScope.Proofs.Docs.Template

  The lines of each section of the template's documentation.  Names are words,
  numbers have no blanks and the text between parentheses is squeezed, so each
  line that is written stays a line (`onOneLine_body`); and each is a bullet,
  except for the headings of functions and the block that shows how to run the
  snippet (`filter_body`).
-/
import SnippetScope.Docs.Template
import SnippetScope.Proofs.Docs.Lines
import SnippetScope.Proofs.Outline.Names

namespace SnippetScope.Docs

open Text (OnOneLine)

/-! ## Pieces of lines -/

theorem onOneLine_append {a b : String} (ha : OnOneLine a.toList) (hb : OnOneLine b.toList) :
    OnOneLine (a ++ b).toList := by
  rw [String.toList_append]
  exact ha.append hb

theorem onOneLine_of_isName {name : String} (h : IsName name) : OnOneLine name.toList :=
  OnOneLine.of_forall_not_blank h.not_blank

theorem onOneLine_code {text : String} (h : OnOneLine text.toList) :
    OnOneLine (code text).toList :=
  onOneLine_append (onOneLine_append (by decide) h) (by decide)

theorem onOneLine_intercalate {parts : List String}
    (h : ∀ part ∈ parts, OnOneLine part.toList) : OnOneLine (", ".intercalate parts).toList := by
  rw [String.toList_intercalate]
  refine OnOneLine.intercalate (by decide) fun chars hchars => ?_
  obtain ⟨part, hpart, rfl⟩ := List.mem_map.mp hchars
  exact h part hpart

theorem onOneLine_displayName (language : Language) : OnOneLine language.displayName.toList := by
  cases language <;> exact .ofList (by decide)

namespace Subject

/-- The names that the documentation shows are words. -/
structure NamesWords (s : Subject) : Prop where
  functions : ∀ name ∈ s.outline.functions, IsName name
  types : ∀ name ∈ s.outline.types, IsName name

variable {s : Subject}

theorem NamesWords.onOneLine_functionName (h : s.NamesWords) :
    ∀ name ∈ s.functionNames, OnOneLine name.toList := fun name hname =>
  onOneLine_of_isName (h.functions name (List.mem_eraseDups.mp hname))

/-! ## Sections of bullets -/

theorem bullets_purpose (h : s.NamesWords) : ∀ line ∈ s.purpose, Bullet line := by
  have hlanguage : OnOneLine s.languageName.toList := onOneLine_displayName _
  have htypes : ∀ part ∈ s.outline.types.map code, OnOneLine part.toList := by
    intro part hpart
    obtain ⟨name, hname, rfl⟩ := List.mem_map.mp hpart
    exact onOneLine_code (onOneLine_of_isName (h.types name hname))
  have hkinds : ∀ part ∈ s.structures.kinds.map (·.title), OnOneLine part.toList := by
    intro part hpart
    obtain ⟨kind, -, rfl⟩ := List.mem_map.mp hpart
    cases kind <;> exact .ofList (by decide)
  rw [purpose, List.forall_mem_append, List.forall_mem_append, List.forall_mem_singleton]
  refine ⟨⟨?_, forall_mem_onlyIf ?_⟩, forall_mem_onlyIf ?_⟩
  · have hbullet : Bullet "- " := .ofList rfl (by decide)
    split
    · have hbullet' : Bullet "- Executable " := .ofList rfl (by decide)
      have hprogram : OnOneLine " program with a ".toList := .ofList (by decide)
      have hmain : OnOneLine (code "main").toList := onOneLine_code (.ofList (by decide))
      exact (((hbullet'.append hlanguage).append hprogram).append hmain).append (.ofList (by decide))
    · split
      · exact (hbullet.append hlanguage).append (.ofList (by decide))
      · have hcount := Text.onOneLine_toString s.outline.functions.length
        have hdefining : OnOneLine " code defining ".toList := .ofList (by decide)
        exact (((hbullet.append hlanguage).append hdefining).append hcount).append (.ofList (by decide))
  · have hbullet : Bullet "- Declares types: " := .ofList rfl (by decide)
    exact hbullet.append (onOneLine_intercalate htypes)
  · have hbullet : Bullet "- Appears to work with: " := .ofList rfl (by decide)
    exact hbullet.append (onOneLine_intercalate hkinds)

theorem bullets_algorithm : ∀ line ∈ s.algorithm, Bullet line := by
  have hloops := Text.onOneLine_toString s.outline.loops.length
  have hconditionals := Text.onOneLine_toString s.outline.conditionals.length
  have hbullet : Bullet "- **Loops**: " := .ofList rfl (by decide)
  have hbullet' : Bullet "- **Conditionals**: " := .ofList rfl (by decide)
  rw [algorithm, List.forall_mem_append, List.forall_mem_append, List.forall_mem_append,
    List.forall_mem_cons, List.forall_mem_singleton]
  refine ⟨⟨⟨⟨?_, ?_⟩, forall_mem_onlyIf (.ofList rfl (by decide))⟩, forall_mem_onlyIf (.ofList rfl (by decide))⟩,
    forall_mem_onlyIf (.ofList rfl (by decide))⟩
  · exact (hbullet.append hloops).append (.ofList (by decide))
  · exact (hbullet'.append hconditionals).append (.ofList (by decide))

/-- Whatever stands between the parentheses, it is shown on one line. -/
theorem bullet_describeParameters (stripped : String) {name : String}
    (h : OnOneLine name.toList) : Bullet (describeParameters stripped name) := by
  have hbullet : Bullet "- " := .ofList rfl (by decide)
  have hname : Bullet ("- " ++ code name ++ ": ") :=
    (hbullet.append (onOneLine_code h)).append (.ofList (by decide))
  rw [describeParameters]
  refine hname.append ?_
  cases hlist : parameters? stripped name with
  | none => exact .ofList (by decide)
  | some list =>
      -- The text between the parentheses may go over several lines; squeezed it does not.
      have hsqueezed : OnOneLine list.toList := by
        obtain ⟨m, -, hm⟩ := Option.bind_eq_some_iff.mp hlist
        obtain ⟨inner, -, rfl⟩ := Option.map_eq_some_iff.mp hm
        rw [String.toList_ofList]
        exact (Text.singlySpaced_squeeze inner).onOneLine
      simp only
      split
      · exact .ofList (by decide)
      · exact onOneLine_code hsqueezed

theorem bullets_parameters (h : s.NamesWords) : ∀ line ∈ s.parameters, Bullet line := by
  rw [parameters, List.forall_mem_append]
  refine ⟨forall_mem_onlyIf (.ofList rfl (by decide)), fun line hline => ?_⟩
  obtain ⟨name, hname, rfl⟩ := List.mem_map.mp hline
  exact bullet_describeParameters _ (h.onOneLine_functionName name hname)

theorem bullets_returnValues : ∀ line ∈ s.returnValues, Bullet line := by
  have hcount := Text.onOneLine_toString (returnWord.findAll s.outline.stripped.toList).length
  have hbullet : Bullet "- " := .ofList rfl (by decide)
  have hmain : OnOneLine (code "main").toList := onOneLine_code (.ofList (by decide))
  rw [returnValues, List.forall_mem_append, List.forall_mem_singleton]
  refine ⟨?_, forall_mem_onlyIf ?_⟩
  · exact (hbullet.append hcount).append (.ofList (by decide))
  · exact (hbullet.append hmain).append (.ofList (by decide))

theorem bullets_complexityLines : ∀ line ∈ s.complexityLines, Bullet line := by
  have htime : OnOneLine s.complexity.time.label.toList := by
    cases s.complexity.time <;> exact .ofList (by decide)
  have hspace : OnOneLine s.complexity.space.label.toList := by
    cases s.complexity.space <;> exact .ofList (by decide)
  have hloops := Text.onOneLine_toString s.complexity.loops
  have hdepth := Text.onOneLine_toString s.complexity.depth
  have hbullet : Bullet "- **Estimated Time Complexity**: " := .ofList rfl (by decide)
  have hbullet' : Bullet "- **Estimated Space Complexity**: " := .ofList rfl (by decide)
  have hbullet'' : Bullet "- " := .ofList rfl (by decide)
  have hkeywords : OnOneLine " loop keyword(s), maximum brace nesting ".toList := .ofList (by decide)
  rw [complexityLines, List.forall_mem_cons, List.forall_mem_cons, List.forall_mem_singleton]
  refine ⟨hbullet.append htime, hbullet'.append hspace, ?_⟩
  exact ((hbullet''.append hloops).append hkeywords).append hdepth

theorem bullets_improvementLines : ∀ line ∈ s.improvementLines, Bullet line := by
  have hbullet : Bullet "- " := .ofList rfl (by decide)
  have hitems : ∀ item ∈ Docs.improvements s.outline.given, OnOneLine item.toList := by
    rw [Docs.improvements, orElse]
    split
    · exact List.forall_mem_singleton.mpr (.ofList (by decide))
    · repeat rw [List.forall_mem_append]
      exact ⟨⟨⟨forall_mem_onlyIf (.ofList (by decide)), forall_mem_onlyIf (.ofList (by decide))⟩,
        forall_mem_onlyIf (.ofList (by decide))⟩, forall_mem_onlyIf (.ofList (by decide))⟩
  rw [improvementLines, List.forall_mem_append]
  refine ⟨fun line hline => ?_, forall_mem_onlyIf (.ofList rfl (by decide))⟩
  obtain ⟨item, hitem, rfl⟩ := List.mem_map.mp hline
  exact hbullet.append (hitems item hitem)

theorem bullets_body (h : s.NamesWords) {part : Section} (hfunctions : part ≠ .functions)
    (husage : part ≠ .usage) : ∀ line ∈ s.body part, Bullet line := by
  cases part with
  | purpose => exact bullets_purpose h
  | algorithm => exact bullets_algorithm
  | functions => exact absurd rfl hfunctions
  | parameters => exact bullets_parameters h
  | returnValues => exact bullets_returnValues
  | complexity => exact bullets_complexityLines
  | usage => exact absurd rfl husage
  | improvements => exact bullets_improvementLines

/-! ## The section of the functions -/

/-- The heading of a function. -/
def functionHeading (name : String) : String := "### " ++ code (name ++ "()")

theorem bullet_role (name : String) : Bullet ("- **Purpose**: "
    ++ (if name = "main" then "Main entry point" else "Utility function")) := by
  have hbullet : Bullet "- **Purpose**: " := .ofList rfl (by decide)
  refine hbullet.append ?_
  split
  · exact .ofList (by decide)
  · exact .ofList (by decide)

theorem functions_eq (s : Subject) :
    s.functions = onlyIf s.outline.functions.isEmpty ["- No functions detected"]
      ++ s.functionNames.flatMap describeFunction :=
  rfl

theorem filter_describeFunction {mark : String} {c : Char} (hmark : mark.toList.head? = some c)
    (hc : c ≠ '-') (name : String) :
    (describeFunction name).filter (starts mark)
      = [functionHeading name].filter (starts mark) := by
  have hempty : starts mark "" = false := starts_of_head_ne hmark (by simp)
  have hrole := filter_starts_bullets hmark hc (List.forall_mem_singleton.mpr (bullet_role name))
  rw [describeFunction, List.filter_cons, hempty, ← functionHeading, List.filter_cons, hrole]
  simp [List.filter_cons]

theorem filter_functions {mark : String} {c : Char} (hmark : mark.toList.head? = some c)
    (hc : c ≠ '-') :
    s.functions.filter (starts mark)
      = (s.functionNames.map functionHeading).filter (starts mark) := by
  have hnone : ∀ line ∈ onlyIf s.outline.functions.isEmpty ["- No functions detected"],
      Bullet line := forall_mem_onlyIf (.ofList rfl (by decide))
  rw [functions_eq, List.filter_append, filter_starts_bullets hmark hc hnone, List.nil_append]
  induction s.functionNames with
  | nil => rfl
  | cons name names ih =>
      rw [List.flatMap_cons, List.filter_append, ih, filter_describeFunction hmark hc,
        List.map_cons, ← List.filter_append]
      rfl

theorem onOneLine_functions (h : s.NamesWords) :
    ∀ line ∈ s.functions, OnOneLine line.toList := by
  rw [functions_eq, List.forall_mem_append]
  refine ⟨forall_mem_onlyIf (.ofList (by decide)), fun line hline => ?_⟩
  obtain ⟨name, hname, hline⟩ := List.mem_flatMap.mp hline
  have hword := h.onOneLine_functionName name hname
  have hheading : OnOneLine ("### " ++ code (name ++ "()")).toList :=
    onOneLine_append (by decide) (onOneLine_code (onOneLine_append hword (by decide)))
  have hall : ∀ line ∈ describeFunction name, OnOneLine line.toList := by
    rw [describeFunction, List.forall_mem_cons, List.forall_mem_cons, List.forall_mem_singleton]
    exact ⟨by decide, hheading, (bullet_role name).onOneLine⟩
  exact hall line hline

/-! ## The block that shows how to run the snippet -/

/-- What marks the structure of a documentation. -/
def structuralMarks : List String := ["## ", "### ", "```"]

theorem forall_structuralMarks {P : String → Prop} :
    (∀ mark ∈ structuralMarks, P mark) ↔ P "## " ∧ P "### " ∧ P "```" := by
  rw [structuralMarks, List.forall_mem_cons, List.forall_mem_cons, List.forall_mem_singleton]

theorem exists_head_of_mem_structuralMarks :
    ∀ mark ∈ structuralMarks, ∃ c, mark.toList.head? = some c ∧ c ≠ '-' ∧ c ≠ '*' := by
  rw [forall_structuralMarks]
  exact ⟨⟨'#', by decide⟩, ⟨'#', by decide⟩, ⟨'`', by decide⟩⟩

/-- A line written out in full is compared with the marks character by
    character. -/
theorem starts_structuralMarks_ofList {chars : List Char}
    (h : ∀ mark ∈ [['#', '#', ' '], ['#', '#', '#', ' '], ['`', '`', '`']],
      mark.isPrefixOf chars = false) :
    ∀ mark ∈ structuralMarks, starts mark (String.ofList chars) = false := by
  rw [List.forall_mem_cons, List.forall_mem_cons, List.forall_mem_singleton] at h
  rw [forall_structuralMarks]
  refine ⟨(starts_ofList _ _).trans h.1, (starts_ofList _ _).trans h.2.1,
    (starts_ofList _ _).trans h.2.2⟩

/-- Between the fences stands one line, which is no mark itself. -/
theorem exists_usage_eq (s : Subject) :
    ∃ command, s.usage = ["```sh", command, "```"] ∧ OnOneLine command.toList
      ∧ ∀ mark ∈ structuralMarks, starts mark command = false := by
  have hopen : fence ++ "sh" = "```sh" := by decide
  have hclose : fence = "```" := by decide
  refine ⟨_, by rw [usage, hopen, hclose], ?_, ?_⟩
  · split
    · cases s.outline.language <;> exact .ofList (by decide)
    · exact .ofList (by decide)
  · split
    · cases s.outline.language <;> exact starts_structuralMarks_ofList (by decide)
    · exact starts_structuralMarks_ofList (by decide)

theorem onOneLine_usage : ∀ line ∈ s.usage, OnOneLine line.toList := by
  obtain ⟨command, husage, hcommand, -⟩ := exists_usage_eq s
  rw [husage, List.forall_mem_cons, List.forall_mem_cons, List.forall_mem_singleton]
  exact ⟨.ofList (by decide), hcommand, .ofList (by decide)⟩

/-! ## All sections -/

/-- The heading of a section. -/
def sectionHeading (part : Section) : String := "## " ++ part.title

/-- The lines of a section that mark the structure. -/
def marked (s : Subject) : Section → List String
  | .functions => s.functionNames.map functionHeading
  | .usage => ["```sh", "```"]
  | _ => []

theorem filter_body (h : s.NamesWords) {mark : String} (hmark : mark ∈ structuralMarks)
    (part : Section) :
    (s.body part).filter (starts mark) = (s.marked part).filter (starts mark) := by
  obtain ⟨c, hc, hdash, -⟩ := exists_head_of_mem_structuralMarks mark hmark
  have hbullets : part ≠ .functions → part ≠ .usage →
      (s.body part).filter (starts mark) = [] := fun hfunctions husage =>
    filter_starts_bullets hc hdash (bullets_body h hfunctions husage)
  cases part with
  | functions => exact filter_functions hc hdash
  | usage =>
      obtain ⟨command, husage, -, hcommand⟩ := exists_usage_eq s
      rw [body, husage, marked, List.filter_cons, List.filter_cons, List.filter_cons,
        hcommand mark hmark]
      simp [List.filter_cons]
  | purpose => exact hbullets (by decide) (by decide)
  | algorithm => exact hbullets (by decide) (by decide)
  | parameters => exact hbullets (by decide) (by decide)
  | returnValues => exact hbullets (by decide) (by decide)
  | complexity => exact hbullets (by decide) (by decide)
  | improvements => exact hbullets (by decide) (by decide)

theorem onOneLine_body (h : s.NamesWords) (part : Section) :
    ∀ line ∈ s.body part, OnOneLine line.toList := by
  by_cases hfunctions : part = .functions
  · subst hfunctions
    exact onOneLine_functions h
  · by_cases husage : part = .usage
    · subst husage
      exact onOneLine_usage
    · exact fun line hline => (bullets_body h hfunctions husage line hline).onOneLine

end Subject

end SnippetScope.Docs
