/-
  SnippetScope.Proofs.Diagram.Tags

  Documents as a reader sees them: tags, each with the text up to the next one.
  What is read from a piece and what follows it depends on what is read from
  the rest alone (`readText_write`), since texts have no tags in them and
  attributes have no quotation marks.  Tags of a document are balanced
  (`balanced_document`).
-/
import SnippetScope.Proofs.Diagram.Escaping

namespace SnippetScope.Markup

/-! ## Reading tags -/

/-- A tag, of which the name alone counts here. -/
inductive Tag where
  | opening (name : List Char)
  | closing (name : List Char)
  /-- The tag of an element without content. -/
  | single (name : List Char)
  deriving DecidableEq, Repr

/-- The tag with the given text between its brackets.  The name ends at a
    space or a slash. -/
def Tag.ofInner (inner : List Char) : Tag :=
  match inner with
  | '/' :: name => .closing name
  | _ =>
    let name := inner.takeWhile fun c => c != ' ' && c != '/'
    if inner.getLast? = some '/' then .single name else .opening name

/-- Tags in their order, each with the text between it and the next one. -/
abbrev Tags := List (Tag × List Char)

mutual

/-- Reads the text up to the next tag, and the tags from there on. -/
def readText : List Char → Option (List Char × Tags)
  | [] => some ([], [])
  | '<' :: rest => (readTag [] false rest).map fun tags => ([], tags)
  | c :: rest => (readText rest).map fun (text, tags) => (c :: text, tags)

/-- Reads on in a tag up to the bracket that closes it, which does not stand
    between quotation marks, and the tags behind it. -/
def readTag (inner : List Char) (quoted : Bool) : List Char → Option Tags
  | [] => none
  | c :: rest =>
    if c = '>' ∧ quoted = false then
      (readText rest).map fun (text, tags) => (Tag.ofInner inner, text) :: tags
    else readTag (inner ++ [c]) (if c = '"' then !quoted else quoted) rest

end

/-- The tags of a document, which starts with one. -/
def tags? (document : List Char) : Option Tags :=
  match readText document with
  | some ([], tags) => some tags
  | _ => none

/-! ## What tags tell -/

/-- Every closing tag is for the innermost open element, and no element stays
    open. -/
def balancedIn (around : List (List Char)) : Tags → Bool
  | [] => around.isEmpty
  | (.opening name, _) :: rest => balancedIn (name :: around) rest
  | (.closing name, _) :: rest =>
    match around with
    | [] => false
    | innermost :: outer => innermost == name && balancedIn outer rest
  | (.single _, _) :: rest => balancedIn around rest

/-- The tags of a document with balanced tags. -/
def Balanced (tags : Tags) : Prop := balancedIn [] tags = true

/-- The names of the elements, in the order in which they are opened. -/
def elements : Tags → List (List Char)
  | [] => []
  | (.opening name, _) :: rest => name :: elements rest
  | (.single name, _) :: rest => name :: elements rest
  | (.closing _, _) :: rest => elements rest

/-- The contents of the elements with a name which hold nothing but text. -/
def textsIn (name : List Char) : Tags → List (List Char)
  | (.opening n, text) :: (.closing m, after) :: rest =>
    if n = name then text :: textsIn name ((.closing m, after) :: rest)
    else textsIn name ((.closing m, after) :: rest)
  | _ :: rest => textsIn name rest
  | [] => []

/-! ## Inside of tags -/

/-- The name of an element. -/
def IsName (name : String) : Prop :=
  name ≠ "" ∧ ∀ c ∈ name.toList, c ≠ ' ' ∧ c ≠ '/' ∧ c ≠ '>' ∧ c ≠ '"'

-- Given by name, so that only the characters of the name are looked at.
instance (name : String) : Decidable (IsName name) :=
  @instDecidableAnd _ _ _
    (List.decidableBAll (fun c => c ≠ ' ' ∧ c ≠ '/' ∧ c ≠ '>' ∧ c ≠ '"') name.toList)

/-- Attributes whose quotation marks stand around their values only. -/
def AreQuoted (attributes : List (String × String)) : Prop :=
  ∀ a ∈ attributes, (∀ c ∈ a.1.toList, c ≠ '>' ∧ c ≠ '"') ∧ '"' ∉ a.2.toList

variable {name : String} {attributes : List (String × String)} {rest : List Char}

theorem readTag_unquoted {run : List Char} (hrun : ∀ c ∈ run, c ≠ '>' ∧ c ≠ '"')
    (inner : List Char) :
    readTag inner false (run ++ rest) = readTag (inner ++ run) false rest := by
  induction run generalizing inner with
  | nil => simp
  | cons c run ih =>
      obtain ⟨⟨hend, hquote⟩, hrun⟩ := List.forall_mem_cons.mp hrun
      rw [List.cons_append, readTag, if_neg (by simp [hend]), if_neg hquote, ih hrun,
        List.append_assoc, List.singleton_append]

theorem readTag_quoted {run : List Char} (hrun : '"' ∉ run) (inner : List Char) :
    readTag inner true (run ++ '"' :: rest) = readTag (inner ++ run ++ ['"']) false rest := by
  induction run generalizing inner with
  | nil => simp [readTag]
  | cons c run ih =>
      rw [List.mem_cons, not_or] at hrun
      rw [List.cons_append, readTag, if_neg (by simp), if_neg (Ne.symm hrun.1), ih hrun.2]
      simp

theorem readTag_quote (inner rest : List Char) :
    readTag inner false ('"' :: rest) = readTag (inner ++ ['"']) true rest := by
  rw [readTag, if_neg (by simp), if_pos rfl]
  rfl

theorem readTag_close (inner rest : List Char) :
    readTag inner false ('>' :: rest)
      = (readText rest).map fun (text, tags) => (Tag.ofInner inner, text) :: tags := by
  rw [readTag, if_pos ⟨rfl, rfl⟩]

theorem writeAttributes_cons (a : String × String) (attributes : List (String × String)) :
    writeAttributes (a :: attributes)
      = ' ' :: (a.1.toList ++ ['='])
        ++ '"' :: (a.2.toList ++ '"' :: writeAttributes attributes) := by
  simp [writeAttributes]

theorem readTag_writeAttributes (h : AreQuoted attributes) (inner : List Char) :
    readTag inner false (writeAttributes attributes ++ rest)
      = readTag (inner ++ writeAttributes attributes) false rest := by
  induction attributes generalizing inner with
  | nil => simp [writeAttributes]
  | cons a attributes ih =>
      obtain ⟨⟨hname, hvalue⟩, hattributes⟩ := List.forall_mem_cons.mp h
      have hfront : ∀ c ∈ ' ' :: (a.1.toList ++ ['=']), c ≠ '>' ∧ c ≠ '"' := by
        intro c hc
        rw [List.mem_cons, List.mem_append, List.mem_singleton] at hc
        rcases hc with rfl | hc | rfl
        · decide
        · exact hname c hc
        · decide
      have hsplit : writeAttributes (a :: attributes) ++ rest
          = ' ' :: (a.1.toList ++ ['='])
            ++ '"' :: (a.2.toList ++ '"' :: (writeAttributes attributes ++ rest)) := by
        simp [writeAttributes_cons]
      rw [hsplit, readTag_unquoted hfront, readTag_quote, readTag_quoted hvalue, ih hattributes]
      simp [writeAttributes_cons]

/-- Attributes end with a quotation mark. -/
theorem getLast?_writeAttributes (h : attributes ≠ []) :
    (writeAttributes attributes).getLast? = some '"' := by
  obtain ⟨init, last, rfl⟩ : ∃ init last, attributes = init ++ [last] :=
    ⟨attributes.dropLast, attributes.getLast h, (List.dropLast_append_getLast h).symm⟩
  have hwrite : writeAttributes (init ++ [last]) = writeAttributes init
      ++ ' ' :: (last.1.toList ++ '=' :: '"' :: last.2.toList) ++ ['"'] := by
    simp [writeAttributes]
  rw [hwrite, List.getLast?_concat]

theorem takeWhile_name (hname : IsName name) (attributes : List (String × String))
    {rest : List Char} (hrest : rest = [] ∨ rest = ['/']) :
    (name.toList ++ (writeAttributes attributes ++ rest)).takeWhile
      (fun c => c != ' ' && c != '/') = name.toList := by
  rw [List.takeWhile_append_of_pos]
  · have hstop : (writeAttributes attributes ++ rest).takeWhile
        (fun c => c != ' ' && c != '/') = [] := by
      cases attributes with
      | nil => rcases hrest with rfl | rfl <;> rfl
      | cons a attributes => simp [writeAttributes_cons]
    rw [hstop, List.append_nil]
  · intro c hc
    obtain ⟨hspace, hslash, -⟩ := hname.2 c hc
    simp [hspace, hslash]

theorem ofInner_of_isName (hname : IsName name) (rest : List Char) :
    Tag.ofInner (name.toList ++ rest)
      = if (name.toList ++ rest).getLast? = some '/' then
          .single ((name.toList ++ rest).takeWhile fun c => c != ' ' && c != '/')
        else .opening ((name.toList ++ rest).takeWhile fun c => c != ' ' && c != '/') := by
  -- The first letter tells the tag from a closing one.
  obtain ⟨c, letters, hletters⟩ := List.exists_cons_of_ne_nil
    (fun hnil => hname.1 (String.toList_eq_nil_iff.mp hnil) : name.toList ≠ [])
  have hslash : c ≠ '/' := (hname.2 c (by simp [hletters])).2.1
  rw [hletters, List.cons_append, Tag.ofInner]
  rintro _ heq
  exact hslash (List.cons.inj heq).1

theorem ofInner_single (hname : IsName name) (attributes : List (String × String)) :
    Tag.ofInner (name.toList ++ (writeAttributes attributes ++ ['/'])) = .single name.toList := by
  rw [ofInner_of_isName hname, if_pos (by simp), takeWhile_name hname attributes (.inr rfl)]

theorem ofInner_opening (hname : IsName name) (attributes : List (String × String)) :
    Tag.ofInner (name.toList ++ writeAttributes attributes) = .opening name.toList := by
  have hlast : (name.toList ++ writeAttributes attributes).getLast? ≠ some '/' := by
    cases attributes with
    | nil =>
        intro h
        rw [writeAttributes, List.flatMap_nil, List.append_nil] at h
        exact (hname.2 '/' (List.mem_of_getLast? h)).2.1 rfl
    | cons a attributes =>
        rw [List.getLast?_append, getLast?_writeAttributes (by simp)]
        simp
  have htake := takeWhile_name hname attributes (.inl rfl)
  rw [List.append_nil] at htake
  rw [ofInner_of_isName hname, if_neg hlast, htake]

/-! ## Pieces -/

/-- The piece has names for its elements and quotes the values of its
    attributes. -/
inductive Sound : Markup → Prop where
  | words (content : String) : Sound (.words content)
  | leaf {name : String} {attributes : List (String × String)} (hname : IsName name)
      (hattributes : AreQuoted attributes) : Sound (.leaf name attributes)
  | node {name : String} {attributes : List (String × String)} {children : List Markup}
      (hname : IsName name) (hattributes : AreQuoted attributes)
      (hchildren : ∀ child ∈ children, Sound child) : Sound (.node name attributes children)

mutual

/-- What is read from a piece, given what is read from the rest behind it. -/
def before : Markup → List Char × Tags → List Char × Tags
  | words content, (text, tags) => (escape content ++ text, tags)
  | leaf name _, (text, tags) => ([], (.single name.toList, text) :: tags)
  | node name _ children, (text, tags) =>
    let (inside, found) := beforeAll children ([], (.closing name.toList, text) :: tags)
    ([], (.opening name.toList, inside) :: found)

/-- What is read from pieces one after the other, given what is read from the
    rest behind them. -/
def beforeAll : List Markup → List Char × Tags → List Char × Tags
  | [], after => after
  | piece :: rest, after => before piece (beforeAll rest after)

end

theorem readText_append {text : List Char} (htext : '<' ∉ text) {after : List Char × Tags}
    (h : readText rest = some after) :
    readText (text ++ rest) = some (text ++ after.1, after.2) := by
  induction text with
  | nil => exact h
  | cons c text ih =>
      rw [List.mem_cons, not_or] at htext
      rw [List.cons_append, readText, ih htext.2]
      · rfl
      · exact fun heq => htext.1 heq.symm

theorem readText_single (hname : IsName name) (hattributes : AreQuoted attributes)
    {after : List Char × Tags} (h : readText rest = some after) :
    readText ('<' :: (name.toList ++ (writeAttributes attributes ++ '/' :: '>' :: rest)))
      = some ([], (.single name.toList, after.1) :: after.2) := by
  have hletters : ∀ c ∈ name.toList, c ≠ '>' ∧ c ≠ '"' := fun c hc => (hname.2 c hc).2.2
  have hslash : ∀ c ∈ ['/'], c ≠ '>' ∧ c ≠ '"' := List.forall_mem_singleton.mpr (by decide)
  rw [readText, readTag_unquoted hletters, readTag_writeAttributes hattributes,
    ← List.singleton_append, readTag_unquoted hslash, readTag_close, h, List.nil_append,
    List.append_assoc, ofInner_single hname]
  rfl

theorem readText_opening (hname : IsName name) (hattributes : AreQuoted attributes)
    {after : List Char × Tags} (h : readText rest = some after) :
    readText ('<' :: (name.toList ++ (writeAttributes attributes ++ '>' :: rest)))
      = some ([], (.opening name.toList, after.1) :: after.2) := by
  have hletters : ∀ c ∈ name.toList, c ≠ '>' ∧ c ≠ '"' := fun c hc => (hname.2 c hc).2.2
  rw [readText, readTag_unquoted hletters, readTag_writeAttributes hattributes, readTag_close, h,
    List.nil_append, ofInner_opening hname]
  rfl

theorem readText_closing (hname : IsName name) {after : List Char × Tags}
    (h : readText rest = some after) :
    readText ('<' :: '/' :: (name.toList ++ '>' :: rest))
      = some ([], (.closing name.toList, after.1) :: after.2) := by
  have hinner : ∀ c ∈ '/' :: name.toList, c ≠ '>' ∧ c ≠ '"' :=
    List.forall_mem_cons.mpr ⟨by decide, fun c hc => (hname.2 c hc).2.2⟩
  rw [← List.cons_append, readText, readTag_unquoted hinner, readTag_close, h]
  rfl

/-- What is read from a piece depends on what is read from the rest alone. -/
theorem readText_write {piece : Markup} (hsound : piece.Sound) {rest : List Char}
    {after : List Char × Tags} (h : readText rest = some after) :
    readText (write piece ++ rest) = some (piece.before after) := by
  induction hsound generalizing rest after with
  | words content =>
      rw [write]
      exact readText_append (lt_not_mem_escape content) h
  | @leaf name attributes hname hattributes =>
      have hwrite : write (.leaf name attributes) ++ rest
          = '<' :: (name.toList ++ (writeAttributes attributes ++ '/' :: '>' :: rest)) := by
        simp [write]
      rw [hwrite, readText_single hname hattributes h]
      rfl
  | @node name attributes children hname hattributes _ ih =>
      have hwrite : write (.node name attributes children) ++ rest
          = '<' :: (name.toList ++ (writeAttributes attributes
            ++ '>' :: (writeAll children ++ '<' :: '/' :: (name.toList ++ '>' :: rest)))) := by
        simp [write]
      -- Children are read one after the other, so this is for any last few of them.
      have hchildren : ∀ {pieces : List Markup} {rest : List Char} {after : List Char × Tags},
          pieces ⊆ children → readText rest = some after →
            readText (writeAll pieces ++ rest) = some (beforeAll pieces after) := by
        intro pieces rest after hsub hafter
        induction pieces with
        | nil => exact hafter
        | cons piece pieces ihp =>
            obtain ⟨hpiece, hpieces⟩ := List.cons_subset.mp hsub
            rw [writeAll, List.append_assoc]
            exact ih piece hpiece (ihp hpieces)
      rw [hwrite, readText_opening hname hattributes
        (hchildren (List.Subset.refl _) (readText_closing hname h))]
      rfl

/-! ## Elements of pieces -/

mutual

theorem balancedIn_before (piece : Markup) (around : List (List Char))
    (after : List Char × Tags) :
    balancedIn around (piece.before after).2 = balancedIn around after.2 := by
  cases piece with
  | words content => rw [before]
  | leaf name attributes => rw [before, balancedIn]
  | node name attributes children =>
      rw [before, balancedIn, balancedIn_beforeAll, balancedIn, beq_self_eq_true, Bool.true_and]

theorem balancedIn_beforeAll (pieces : List Markup) (around : List (List Char))
    (after : List Char × Tags) :
    balancedIn around (beforeAll pieces after).2 = balancedIn around after.2 := by
  cases pieces with
  | nil => rw [beforeAll]
  | cons piece pieces => rw [beforeAll, balancedIn_before, balancedIn_beforeAll]

end

mutual

/-- The names of the elements of a piece, in the order in which they are
    opened. -/
def names : Markup → List (List Char)
  | words _ => []
  | leaf name _ => [name.toList]
  | node name _ children => name.toList :: namesAll children

/-- The names of the elements of pieces. -/
def namesAll : List Markup → List (List Char)
  | [] => []
  | piece :: rest => names piece ++ namesAll rest

end

mutual

theorem elements_before (piece : Markup) (after : List Char × Tags) :
    elements (piece.before after).2 = piece.names ++ elements after.2 := by
  cases piece with
  | words content => rw [before, names, List.nil_append]
  | leaf name attributes => rw [before, elements, names, List.singleton_append]
  | node name attributes children =>
      rw [before, elements, elements_beforeAll, elements, names, List.cons_append]

theorem elements_beforeAll (pieces : List Markup) (after : List Char × Tags) :
    elements (beforeAll pieces after).2 = namesAll pieces ++ elements after.2 := by
  cases pieces with
  | nil => rw [beforeAll, namesAll, List.nil_append]
  | cons piece pieces =>
      rw [beforeAll, elements_before, elements_beforeAll, namesAll, List.append_assoc]

end

theorem textsIn_cons_of_ne {tag : Tag} (htag : ∀ n, tag ≠ .opening n) (name text : List Char)
    (tags : Tags) : textsIn name ((tag, text) :: tags) = textsIn name tags := by
  rw [textsIn]
  rintro n _ _ _ _ heq -
  exact htag n (Prod.mk.inj heq).1

theorem textsIn_words (name n text after : List Char) (m : List Char) (tags : Tags) :
    textsIn name ((.opening n, text) :: (.closing m, after) :: tags)
      = if n = name then text :: textsIn name tags else textsIn name tags := by
  have hclosing : textsIn name ((.closing m, after) :: tags) = textsIn name tags :=
    textsIn_cons_of_ne (by simp) name after tags
  rw [textsIn, hclosing]

/-! ## Documents -/

/-- The pieces, each with a line feed behind it. -/
def onLines (pieces : List Markup) : List Markup :=
  pieces.flatMap fun piece => [piece, .words "\n"]

theorem onLines_cons (piece : Markup) (pieces : List Markup) :
    onLines (piece :: pieces) = piece :: .words "\n" :: onLines pieces := by
  rw [onLines, List.flatMap_cons]
  rfl

theorem writeAll_onLines (pieces : List Markup) :
    writeAll (onLines pieces) = writeLines pieces := by
  induction pieces with
  | nil => rfl
  | cons piece pieces ih =>
      have hcons : writeLines (piece :: pieces) = write piece ++ ['\n'] ++ writeLines pieces :=
        List.flatMap_cons
      have hfeed : write (.words "\n") = ['\n'] := by
        rw [write]
        decide
      rw [onLines_cons, writeAll, writeAll, hfeed, ih, hcons, List.append_assoc]

theorem namesAll_onLines (pieces : List Markup) : namesAll (onLines pieces) = namesAll pieces := by
  induction pieces with
  | nil => rfl
  | cons piece pieces ih =>
      rw [onLines_cons, namesAll, namesAll, names, ih, namesAll, List.nil_append]

theorem Sound.onLines {pieces : List Markup} (h : ∀ piece ∈ pieces, Sound piece) :
    ∀ piece ∈ onLines pieces, Sound piece := by
  intro piece hpiece
  obtain ⟨line, hline, hmem⟩ := List.mem_flatMap.mp hpiece
  rcases List.mem_pair.mp hmem with rfl | rfl
  · exact h _ hline
  · exact .words _

/-- The piece that a document consists of. -/
def page (name : String) (attributes : List (String × String)) (children : List Markup) : Markup :=
  .node name attributes (.words "\n" :: onLines children)

theorem toList_document (name : String) (attributes : List (String × String))
    (children : List Markup) :
    (document name attributes children).toList
      = write (page name attributes children) ++ ['\n'] := by
  have hfeed : write (.words "\n") = ['\n'] := by
    rw [write]
    decide
  rw [document, String.toList_ofList, page, write, writeAll, hfeed, writeAll_onLines]
  simp

variable {children : List Markup}

theorem tags?_document (hname : IsName name) (hattributes : AreQuoted attributes)
    (hchildren : ∀ child ∈ children, Sound child) :
    tags? (document name attributes children).toList
      = some ((page name attributes children).before (['\n'], [])).2 := by
  have hsound : (page name attributes children).Sound :=
    .node hname hattributes (List.forall_mem_cons.mpr ⟨.words _, Sound.onLines hchildren⟩)
  have hend : readText ['\n'] = some (['\n'], []) := by
    decide
  rw [tags?, toList_document, readText_write hsound hend, page, before]

/-- Tags of a document are balanced. -/
theorem balanced_document (name : String) (attributes : List (String × String))
    (children : List Markup) (text : List Char) :
    Balanced ((page name attributes children).before (text, [])).2 := by
  rw [Balanced, balancedIn_before]
  rfl

theorem elements_document (name : String) (attributes : List (String × String))
    (children : List Markup) (text : List Char) :
    elements ((page name attributes children).before (text, [])).2
      = name.toList :: namesAll children := by
  rw [elements_before, page, names, namesAll, names, namesAll_onLines, elements, List.append_nil,
    List.nil_append]

end SnippetScope.Markup
