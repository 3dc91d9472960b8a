/-
  SnippetScope.Proofs.Outline.Calls

  Names with parentheses behind them.  The parts of such a text are determined by
  where it starts (`CallText.text_unique`), and in every language a match of the
  pattern for functions has one, with something in front that the language asks
  for and something behind (`leads_functions_iff`).  The main statement is that
  the name of a function that is found is a whole word of the text
  (`exists_call_of_mem_functions`), although the pattern of two languages can
  start within a word.
-/
import SnippetScope.Proofs.Outline.Names
import SnippetScope.Proofs.Pattern.Ways

namespace SnippetScope

open Pattern (Place Progress Leads StopsAt Match holds)
open Unicode (isWord isBlank)

/-! ## Calls -/

/-- A name, blanks or nothing, and a text in parentheses. -/
structure CallText where
  name : List Char
  gap : List Char
  inner : List Char
  name_ne_nil : name ≠ []
  isWord_name : ∀ c ∈ name, isWord c = true
  isBlank_gap : ∀ c ∈ gap, isBlank c = true
  closing_not_mem : ')' ∉ inner

namespace CallText

/-- What stands behind the name. -/
def parameters (call : CallText) : List Char :=
  call.gap ++ '(' :: (call.inner ++ [')'])

/-- The call as it is written. -/
def text (call : CallText) : List Char :=
  call.name ++ call.parameters

/-- A run of blanks, and what follows it if that is no word, ends a word. -/
theorem stopsAt_gap {gap rest : List Char} (hgap : ∀ c ∈ gap, isBlank c = true)
    (hrest : StopsAt isWord rest) : StopsAt isWord (gap ++ rest) := by
  cases gap with
  | nil => exact hrest
  | cons c gap => exact Pattern.stopsAt_cons (Unicode.isWord_eq_false_of_isBlank (hgap c List.mem_cons_self))

/-- What starts with a word does not start with a blank. -/
theorem stopsAt_word {word rest : List Char} (hne : word ≠ [])
    (hword : ∀ c ∈ word, isWord c = true) : StopsAt isBlank (word ++ rest) := by
  obtain ⟨c, word, rfl⟩ := List.exists_cons_of_ne_nil hne
  exact Pattern.stopsAt_cons (Unicode.isBlank_eq_false_of_isWord (hword c List.mem_cons_self))

theorem stopsAt_parameters (call : CallText) (rest : List Char) :
    StopsAt isWord (call.parameters ++ rest) := by
  rw [parameters, List.append_assoc]
  exact stopsAt_gap call.isBlank_gap (Pattern.stopsAt_cons rfl)

theorem stopsAt_text (call : CallText) (rest : List Char) : StopsAt isBlank (call.text ++ rest) := by
  rw [text, List.append_assoc]
  exact stopsAt_word call.name_ne_nil call.isWord_name

/-- Behind a given name there is one way to read parentheses. -/
theorem parameters_unique {a b : CallText} {rest rest' : List Char}
    (h : a.parameters ++ rest = b.parameters ++ rest') :
    a.gap = b.gap ∧ a.inner = b.inner ∧ rest = rest' := by
  have hopening (text : List Char) : StopsAt isBlank ('(' :: text) := Pattern.stopsAt_cons rfl
  have hclosing (text : List Char) : StopsAt (· != ')') (')' :: text) := Pattern.stopsAt_cons rfl
  have hplain (call : CallText) : ∀ c ∈ call.inner, (c != ')') = true := by
    intro c hc
    rw [bne_iff_ne]
    rintro rfl
    exact call.closing_not_mem hc
  simp only [parameters, List.append_assoc, List.cons_append, List.nil_append] at h
  obtain ⟨hgap, hparens⟩ :=
    Pattern.run_unique h a.isBlank_gap b.isBlank_gap (hopening _) (hopening _)
  obtain ⟨hinner, hrest⟩ := Pattern.run_unique (List.cons.inj hparens).2 (hplain a) (hplain b)
    (hclosing _) (hclosing _)
  exact ⟨hgap, hinner, (List.cons.inj hrest).2⟩

/-- At most one call starts a text. -/
theorem text_unique {a b : CallText} {rest rest' : List Char}
    (h : a.text ++ rest = b.text ++ rest') : a = b ∧ rest = rest' := by
  rw [text, text, List.append_assoc, List.append_assoc] at h
  obtain ⟨hname, hparameters⟩ := Pattern.run_unique h a.isWord_name b.isWord_name
    (a.stopsAt_parameters rest) (b.stopsAt_parameters rest')
  obtain ⟨hgap, hinner, hrest⟩ := parameters_unique hparameters
  refine ⟨?_, hrest⟩
  cases a
  cases b
  simp_all

/-- A text with a call in front does not start with a parenthesis. -/
theorem text_append_ne_paren (call : CallText) (rest behind : List Char) :
    call.text ++ rest ≠ '(' :: behind := by
  obtain ⟨c, word, hword⟩ := List.exists_cons_of_ne_nil call.name_ne_nil
  intro h
  rw [text, hword] at h
  obtain rfl := (List.cons.inj h).1
  have hparen := call.isWord_name _ (hword ▸ List.mem_cons_self)
  cases hparen

/-- Two calls with the same parenthesis are one, if no word ends before them. -/
theorem eq_of_same_paren {front front' rest rest' : List Char} {a b : CallText}
    (h : front ++ (a.text ++ rest) = front' ++ (b.text ++ rest'))
    (hplace : (front ++ (a.name ++ a.gap)).length = (front' ++ (b.name ++ b.gap)).length)
    (hstop : StopsAt isWord front.reverse) (hstop' : StopsAt isWord front'.reverse) : a = b := by
  have hends (front : List Char) (call : CallText) : StopsAt isBlank (front ++ call.name).reverse := by
    rw [List.reverse_append]
    exact stopsAt_word (by simpa using call.name_ne_nil) (by simpa using call.isWord_name)
  have hparts (front rest : List Char) (call : CallText) : front ++ (call.text ++ rest)
      = (front ++ (call.name ++ call.gap)) ++ '(' :: (call.inner ++ ')' :: rest) := by
    simp [text, parameters]
  rw [hparts, hparts front'] at h
  have hsame : (front ++ a.name) ++ a.gap = (front' ++ b.name) ++ b.gap := by
    rw [List.append_assoc, List.append_assoc]
    exact (List.append_inj h hplace).1
  obtain ⟨hnames, -⟩ := Pattern.run_unique_end hsame a.isBlank_gap b.isBlank_gap (hends front a)
    (hends front' b)
  obtain ⟨hfronts, -⟩ := Pattern.run_unique_end hnames a.isWord_name b.isWord_name hstop hstop'
  rw [← hparts, ← hparts, hfronts] at h
  exact (text_unique (List.append_cancel_left h)).1

end CallText

/-! ## The patterns of functions -/

namespace Constructs

theorem forall_noneOf_closing_iff {inner : List Char} :
    (∀ c ∈ inner, Pattern.noneOf ")" c = true) ↔ ')' ∉ inner := by
  constructor
  · intro h hmem
    exact absurd (h _ hmem) (by decide)
  · intro h c hc
    have hne : c ≠ ')' := by
      rintro rfl
      exact h hc
    simpa [Pattern.noneOf] using hne

theorem leads_parenthesized_iff {p q : Progress} :
    Leads parenthesized p q ↔ ∃ inner, p.place.Spans ('(' :: (inner ++ [')'])) q.place
      ∧ ')' ∉ inner ∧ q.named = p.named := by
  simp only [parenthesized, mark, Pattern.leads_append_iff, Pattern.leads_mark_iff,
    Pattern.leads_run_iff, forall_noneOf_closing_iff]
  constructor
  · rintro ⟨r, ⟨s, ⟨hopening, hs⟩, inner, hinner, hplain, -, hr⟩, hclosing, hq⟩
    exact ⟨inner, (hopening.trans hinner).trans hclosing, hplain, hq.trans (hr.trans hs)⟩
  · rintro ⟨inner, hspan, hplain, hq⟩
    obtain ⟨s, hopening, hrest⟩ := Place.Spans.split (a := ['(']) hspan
    obtain ⟨r, hinner, hclosing⟩ := hrest.split
    exact ⟨⟨r, p.named⟩, ⟨⟨s, p.named⟩, ⟨hopening, rfl⟩, inner, hinner, hplain, Nat.zero_le _, rfl⟩,
      hclosing, hq⟩

/-- What a name with parentheses behind it is, after whatever leads up to it. -/
theorem leads_call_iff {lead : Pattern} {p q : Progress} :
    Leads (lead ++ nameWord ++ gap ++ parenthesized) p q
      ↔ ∃ (r : Progress) (s : Place) (call : CallText), Leads lead p r
        ∧ r.place.Spans call.name s ∧ s.Spans call.parameters q.place
        ∧ q.named = some (r.place, s) := by
  simp only [nameWord, word, gap, Pattern.leads_append_iff, Pattern.leads_run_iff,
    Pattern.leads_namedRun_iff, leads_parenthesized_iff]
  constructor
  · rintro ⟨t, ⟨s, ⟨r, hlead, name, hname, hword, hleast, hs⟩, gap, hgap, hblank, -, ht⟩, inner,
      hinner, hplain, hq⟩
    refine ⟨r, s.place, ⟨name, gap, inner, List.length_pos_iff.mp hleast, hword, hblank, hplain⟩,
      hlead, hname, hgap.trans hinner, ?_⟩
    rw [hq, ht, hs]
  · rintro ⟨r, s, call, hlead, hname, hparameters, hq⟩
    obtain ⟨t, hgap, hinner⟩ := hparameters.split
    have hleast : 1 ≤ call.name.length := List.length_pos_iff.mpr call.name_ne_nil
    exact ⟨⟨t, some (r.place, s)⟩, ⟨⟨s, some (r.place, s)⟩,
      ⟨r, hlead, call.name, hname, call.isWord_name, hleast, rfl⟩, call.gap, hgap,
      call.isBlank_gap, Nat.zero_le _, rfl⟩, call.inner, hinner, call.closing_not_mem, hq⟩

end Constructs

namespace Language

open Constructs (word blanks gap mark nameWord parenthesized)
open Pattern (text optional)

/-- A keyword starts the functions of the language; in the others they end with
    their brace. -/
def hasKeyword : Language → Bool
  | .python | .go | .rust => true
  | .cpp | .c | .java => false

/-- What the pattern of functions asks for in front of the name. -/
def functionLead : Language → Pattern
  | .cpp | .c => optional (word ++ blanks)
  | .python => text "def" ++ blanks
  | .java =>
    optional (text "public" <|> text "private" <|> text "protected") ++ gap
      ++ optional (text "static") ++ gap ++ word ++ blanks
  | .go =>
    text "func" ++ blanks
      ++ optional (mark '(' ++ word ++ blanks ++ optional (mark '*') ++ word ++ mark ')' ++ blanks)
  | .rust => text "fn" ++ blanks

/-- What may stand behind the parentheses of a function. -/
def IsClosing (language : Language) (closing : List Char) : Prop :=
  match language with
  | .cpp | .c | .java => ∃ gap, (∀ c ∈ gap, isBlank c = true) ∧ closing = gap ++ ['\x7b']
  | .python => closing = [':']
  | .go | .rust => closing = []

theorem leads_brace_iff {front : Pattern} {p q : Progress} :
    Leads (front ++ gap ++ mark '\x7b') p q
      ↔ ∃ (t : Progress) (closing : List Char), Leads front p t ∧ t.place.Spans closing q.place
        ∧ (∃ gap, (∀ c ∈ gap, isBlank c = true) ∧ closing = gap ++ ['\x7b'])
        ∧ q.named = t.named := by
  simp only [gap, mark, Pattern.leads_append_iff, Pattern.leads_run_iff, Pattern.leads_mark_iff]
  constructor
  · rintro ⟨s, ⟨t, hfront, run, hrun, hblank, -, hs⟩, hbrace, hq⟩
    exact ⟨t, run ++ ['\x7b'], hfront, hrun.trans hbrace, ⟨run, hblank, rfl⟩, hq.trans hs⟩
  · rintro ⟨t, _, hfront, hspan, ⟨run, hblank, rfl⟩, hq⟩
    obtain ⟨s, hrun, hbrace⟩ := hspan.split
    exact ⟨⟨s, t.named⟩, ⟨t, hfront, run, hrun, hblank, Nat.zero_le _, rfl⟩, hbrace, hq⟩

/-- In each language a function is its lead, a call and its closing. -/
theorem leads_closing_iff {language : Language} {p q : Progress} :
    Leads language.constructs.functions p q
      ↔ ∃ (t : Progress) (closing : List Char),
        Leads (language.functionLead ++ nameWord ++ gap ++ parenthesized) p t
        ∧ t.place.Spans closing q.place ∧ language.IsClosing closing ∧ q.named = t.named := by
  have hnothing : ∀ {front : Pattern}, Leads front p q ↔ ∃ (t : Progress) (closing : List Char),
      Leads front p t ∧ t.place.Spans closing q.place ∧ closing = [] ∧ q.named = t.named := by
    intro front
    constructor
    · intro h
      exact ⟨q, [], h, .refl _, rfl, rfl⟩
    · rintro ⟨t, _, h, hspan, rfl, hq⟩
      have hplace := hspan.stop_eq (.refl _)
      cases q
      simp_all
  cases language with
  | cpp => exact leads_brace_iff
  | c => exact leads_brace_iff
  | java => exact leads_brace_iff
  | go => exact hnothing
  | rust => exact hnothing
  | python =>
      show Leads (_ ++ mark ':') p q ↔ _
      simp only [mark, Pattern.leads_append_iff (b := .one _), Pattern.leads_mark_iff]
      constructor
      · rintro ⟨t, hcall, hspan, hq⟩
        exact ⟨t, _, hcall, hspan, rfl, hq⟩
      · rintro ⟨t, _, hcall, hspan, rfl, hq⟩
        exact ⟨t, hcall, hspan, hq⟩

theorem leads_functions_iff {language : Language} {p q : Progress} :
    Leads language.constructs.functions p q
      ↔ ∃ (r : Progress) (s t : Place) (call : CallText) (closing : List Char),
        Leads language.functionLead p r ∧ r.place.Spans call.name s
        ∧ s.Spans call.parameters t ∧ t.Spans closing q.place ∧ language.IsClosing closing
        ∧ q.named = some (r.place, s) := by
  rw [leads_closing_iff]
  simp only [Constructs.leads_call_iff]
  constructor
  · rintro ⟨t, closing, ⟨r, s, call, hlead, hname, hparameters, ht⟩, hspan, hclosing, hq⟩
    exact ⟨r, s, t.place, call, closing, hlead, hname, hparameters, hspan, hclosing, hq.trans ht⟩
  · rintro ⟨r, s, t, call, closing, hlead, hname, hparameters, hspan, hclosing, hq⟩
    exact ⟨⟨t, some (r.place, s)⟩, closing, ⟨r, s, call, hlead, hname, hparameters, rfl⟩, hspan,
      hclosing, hq⟩

/-- How a match of the pattern for functions falls into parts. -/
theorem exists_parts_of_matchAt {language : Language} {start : Place} {m : Match}
    (h : language.constructs.functions.matchAt? start = some m) :
    ∃ (lead closing : List Char) (r : Progress) (call : CallText),
      Leads language.functionLead ⟨start, none⟩ r ∧ start.Spans lead r.place
      ∧ language.IsClosing closing ∧ m = ⟨lead ++ (call.text ++ closing), some call.name⟩ := by
  obtain ⟨stop, hlead, hspan, hname⟩ := Pattern.exists_leads_of_matchAt h
  obtain ⟨r, s, t, call, closing, hlead, hcall, hparameters, hclosed, hclosing, hnamed⟩ :=
    leads_functions_iff.mp hlead
  obtain ⟨lead, hfront⟩ := hlead.spans
  have hall := hfront.trans ((hcall.trans hparameters).trans hclosed)
  have htext : m.text = lead ++ (call.text ++ closing) := hspan.upTo_eq.symm.trans hall.upTo_eq
  have hgiven : m.name = some call.name := by
    rw [hname, hnamed, Option.map_some, hcall.upTo_eq]
  refine ⟨lead, closing, r, call, hlead, hfront, hclosing, ?_⟩
  cases m
  simp_all

theorem text_ne_nil_of_matchAt {language : Language} {start : Place} {m : Match}
    (h : language.constructs.functions.matchAt? start = some m) : m.text ≠ [] := by
  obtain ⟨lead, closing, r, call, -, -, -, rfl⟩ := exists_parts_of_matchAt h
  have hne := call.name_ne_nil
  simp [CallText.text, hne]

/-- A call behind a lead, with a closing behind it, is matched. -/
theorem isSome_matchAt {language : Language} {start : Place} {r : Progress} {call : CallText}
    {closing : List Char} (hlead : Leads language.functionLead ⟨start, none⟩ r)
    (hclosing : language.IsClosing closing) (h : call.text ++ closing <+: r.place.rest) :
    (language.constructs.functions.matchAt? start).isSome = true := by
  obtain ⟨rest, hrest⟩ := h
  have hspan : r.place.Spans (call.name ++ (call.parameters ++ closing))
      ⟨(call.name ++ (call.parameters ++ closing)).getLast?.or r.place.prev, rest⟩ := by
    refine ⟨?_, rfl⟩
    rw [← hrest, CallText.text]
    simp only [List.append_assoc]
  obtain ⟨s, hname, hbehind⟩ := hspan.split
  obtain ⟨t, hparameters, hclosed⟩ := hbehind.split
  exact Pattern.isSome_matchAt_iff.mpr ⟨⟨_, some (r.place, s)⟩, leads_functions_iff.mpr
    ⟨r, s, t, call, closing, hlead, hname, hparameters, hclosed, hclosing, rfl⟩⟩

theorem exists_gap_of_isClosing {language : Language} (hkeyword : language.hasKeyword = false)
    {closing : List Char} (hclosing : language.IsClosing closing) :
    ∃ gap, (∀ c ∈ gap, isBlank c = true) ∧ closing = gap ++ ['\x7b'] := by
  cases language with
  | cpp | c | java => exact hclosing
  | python | go | rust => cases hkeyword

/-- Without a keyword a match ends with the brace. -/
theorem getLast?_text_of_matchAt {language : Language} (hkeyword : language.hasKeyword = false)
    {start : Place} {m : Match} (h : language.constructs.functions.matchAt? start = some m) :
    m.text.getLast? = some '\x7b' := by
  obtain ⟨lead, closing, r, call, -, -, hclosing, rfl⟩ := exists_parts_of_matchAt h
  obtain ⟨gap, -, rfl⟩ := exists_gap_of_isClosing hkeyword hclosing
  rw [← List.append_assoc, ← List.append_assoc, List.getLast?_concat]

/-! ## Names are whole words -/

/-- In these languages nothing needs to stand in front of the name. -/
def IsUntyped (language : Language) : Prop :=
  language = .cpp ∨ language = .c

theorem apart_of_leads_blanks {front : Pattern} {p q : Progress} (h : Leads (front ++ blanks) p q) :
    holds isWord q.place.prev = false := by
  obtain ⟨r, -, hblanks⟩ := Pattern.leads_append_iff.mp h
  obtain ⟨run, hspan, hblank, hleast, -⟩ := Pattern.leads_run_iff.mp hblanks
  obtain ⟨last, hlast⟩ : ∃ last, run.getLast? = some last :=
    Option.isSome_iff_exists.mp (by simpa using List.length_pos_iff.mp hleast)
  rw [hspan.prev_eq, hlast]
  exact Unicode.isWord_eq_false_of_isBlank (hblank last (List.mem_of_getLast? hlast))

/-- Behind what stands in front of a name a word can start. -/
theorem apart_of_leads_functionLead {language : Language} {p q : Progress}
    (h : Leads language.functionLead p q) :
    holds isWord q.place.prev = false ∨ language.IsUntyped ∧ q = p := by
  cases language with
  | cpp => exact (Pattern.leads_optional_iff.mp h).imp apart_of_leads_blanks (⟨.inl rfl, ·⟩)
  | c => exact (Pattern.leads_optional_iff.mp h).imp apart_of_leads_blanks (⟨.inr rfl, ·⟩)
  | python => exact .inl (apart_of_leads_blanks h)
  | java => exact .inl (apart_of_leads_blanks h)
  | rust => exact .inl (apart_of_leads_blanks h)
  | go =>
      obtain ⟨r, hfront, hreceiver⟩ := Pattern.leads_append_iff.mp h
      rcases Pattern.leads_optional_iff.mp hreceiver with hreceiver | rfl
      · exact .inl (apart_of_leads_blanks hreceiver)
      · exact .inl (apart_of_leads_blanks hfront)

/-- A search that has come to the place would not start a match within a word. -/
def Fresh (language : Language) (start : Place) : Prop :=
  language.IsUntyped → holds isWord start.prev = true →
    language.constructs.functions.matchAt? start = none

theorem fresh_of_apart {language : Language} {start : Place}
    (h : holds isWord start.prev = false) : language.Fresh start := by
  intro _ hword
  rw [h] at hword
  cases hword

/-- Without a type in front, a match could as well start one word character
    earlier. -/
theorem isSome_matchAt_cons {language : Language} (huntyped : language.IsUntyped) {c : Char}
    (hc : isWord c = true) {rest : List Char} (prev : Option Char)
    (h : (language.constructs.functions.matchAt? ⟨some c, rest⟩).isSome = true) :
    (language.constructs.functions.matchAt? ⟨prev, c :: rest⟩).isSome = true := by
  have hoptional : language.functionLead = optional (word ++ blanks) := by
    rcases huntyped with rfl | rfl
    · rfl
    · rfl
  obtain ⟨stop, hlead⟩ := Pattern.isSome_matchAt_iff.mp h
  obtain ⟨r, s, t, call, closing, hlead, hname, hparameters, hclosed, hclosing, -⟩ :=
    leads_functions_iff.mp hlead
  have hbehind := (hname.trans hparameters).trans hclosed
  rw [hoptional, Pattern.leads_optional_iff] at hlead
  rcases hlead with htyped | rfl
  · -- The type in front takes the character.
    obtain ⟨u, hword, hblanks⟩ := Pattern.leads_append_iff.mp htyped
    obtain ⟨run, hrun, hset, -, hnamed⟩ := Pattern.leads_run_iff.mp hword
    have hlonger : Leads word ⟨⟨prev, c :: rest⟩, none⟩ u :=
      Pattern.leads_run_iff.mpr ⟨c :: run, (Place.Spans.single prev c rest).trans hrun,
        List.forall_mem_cons.mpr ⟨hc, hset⟩, by simp, hnamed⟩
    have hlead : Leads language.functionLead ⟨⟨prev, c :: rest⟩, none⟩ r := by
      rw [hoptional, Pattern.leads_optional_iff]
      exact .inl (Pattern.leads_append_iff.mpr ⟨u, hlonger, hblanks⟩)
    exact isSome_matchAt hlead hclosing ⟨stop.place.rest, hbehind.rest_eq.symm⟩
  · -- There is no type, so that the name takes it.
    let longer : CallText := { call with
      name := c :: call.name
      name_ne_nil := List.cons_ne_nil c call.name
      isWord_name := List.forall_mem_cons.mpr ⟨hc, call.isWord_name⟩ }
    have hlead : Leads language.functionLead ⟨⟨prev, c :: rest⟩, none⟩
        ⟨⟨prev, c :: rest⟩, none⟩ := by
      rw [hoptional, Pattern.leads_optional_iff]
      exact .inr rfl
    have hrest : rest = (call.text ++ closing) ++ stop.place.rest := hbehind.rest_eq
    have hlonger : longer.text ++ closing <+: c :: rest :=
      ⟨stop.place.rest, (congrArg (c :: ·) hrest).symm⟩
    exact isSome_matchAt hlead hclosing hlonger

theorem Fresh.kept {language : Language} {prev : Option Char} {c : Char} {rest : List Char}
    (hnone : ∀ m, language.constructs.functions.matchAt? ⟨prev, c :: rest⟩ = some m → m.text = []) :
    language.Fresh ⟨some c, rest⟩ := by
  intro huntyped hc
  by_contra hmatch
  have hsome := isSome_matchAt_cons huntyped hc prev (Option.isSome_iff_ne_none.mpr hmatch)
  obtain ⟨m, hm⟩ := Option.isSome_iff_exists.mp hsome
  exact text_ne_nil_of_matchAt hm (hnone m hm)

theorem Fresh.found {language : Language} {start stop : Place} {m : Match}
    (h : language.constructs.functions.matchAt? start = some m) (hspan : start.Spans m.text stop) :
    language.Fresh stop := by
  intro huntyped hword
  have hkeyword : language.hasKeyword = false := by
    rcases huntyped with rfl | rfl
    · rfl
    · rfl
  rw [hspan.prev_eq, getLast?_text_of_matchAt hkeyword h] at hword
  cases hword

/-- From a place where a search may start, a match has its name apart from other
    words. -/
theorem Fresh.apart {language : Language} {start : Place} (hfresh : language.Fresh start)
    {m : Match} (h : language.constructs.functions.matchAt? start = some m) {r : Progress}
    (hlead : Leads language.functionLead ⟨start, none⟩ r) :
    holds isWord r.place.prev = false := by
  rcases apart_of_leads_functionLead hlead with hapart | ⟨huntyped, rfl⟩
  · exact hapart
  · by_contra hword
    rw [Bool.not_eq_false] at hword
    rw [hfresh huntyped hword] at h
    cases h

end Language

/-! ## Functions that are found -/

namespace Outline

theorem exists_call_of_mem_found {language : Language} {start : Place}
    {pieces : List Pattern.Piece} (h : Pattern.Cuts language.constructs.functions start pieces)
    (hfresh : language.Fresh start) {m : Match} (hm : m ∈ pieces.filterMap Pattern.Piece.found?) :
    ∃ (stretch : List Char) (here : Place) (call : CallText), start.Spans stretch here
      ∧ holds isWord here.prev = false ∧ call.text <+: here.rest ∧ m.name = some call.name := by
  -- No piece leaves the search at a place where a match would start within a word.
  induction h with
  | done prev => cases hm
  | @found p q found later hmatch hspan _ _ ih =>
      simp only [List.filterMap_cons, Pattern.Piece.found?, List.mem_cons] at hm
      rcases hm with rfl | hm
      · obtain ⟨lead, closing, r, call, hlead, hfront, -, rfl⟩ :=
          Language.exists_parts_of_matchAt hmatch
        refine ⟨lead, r.place, call, hfront, hfresh.apart hmatch hlead, ?_, rfl⟩
        have hrest : lead ++ r.place.rest = lead ++ (call.text ++ (closing ++ q.rest)) := by
          rw [← hfront.rest_eq, hspan.rest_eq]
          simp only [List.append_assoc]
        exact ⟨closing ++ q.rest, (List.append_cancel_left hrest).symm⟩
      · obtain ⟨stretch, here, call, hhere, hcall⟩ := ih (.found hmatch hspan) hm
        exact ⟨found.text ++ stretch, here, call, hspan.trans hhere, hcall⟩
  | @kept prev c rest later hnone _ ih =>
      simp only [List.filterMap_cons, Pattern.Piece.found?] at hm
      obtain ⟨stretch, here, call, hhere, hcall⟩ := ih (.kept hnone) hm
      exact ⟨c :: stretch, here, call, (Place.Spans.single prev c rest).trans hhere, hcall⟩

/-- Each function of an outline stands in the text, as a whole word and with
    parentheses behind it. -/
theorem exists_call_of_mem_functions {language : Language} {text name : String}
    (h : name ∈ (ofText language text).functions) :
    ∃ (stretch : List Char) (here : Place) (call : CallText),
      (⟨none, stripComments language text.toList⟩ : Place).Spans stretch here
      ∧ holds isWord here.prev = false ∧ call.text <+: here.rest ∧ call.name = name.toList := by
  have hnames : name ∈ namesIn language.constructs.functions (stripComments language text.toList) := h
  rw [namesIn_eq language.namesWords_functions] at hnames
  obtain ⟨found, hfound, rfl⟩ := List.mem_map.mp hnames
  obtain ⟨m, hm, hname⟩ := List.mem_filterMap.mp hfound
  obtain ⟨stretch, here, call, hhere, hapart, hcall, hgiven⟩ := exists_call_of_mem_found
    (Pattern.cuts_pieces _ _) (Language.fresh_of_apart rfl) hm
  rw [hname] at hgiven
  refine ⟨stretch, here, call, hhere, hapart, hcall, ?_⟩
  rw [String.toList_ofList, ← Option.some.inj hgiven]

end Outline

end SnippetScope
