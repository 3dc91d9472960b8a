/-
  SnippetScope.Proofs.Outline.Headers

  Headers of functions in a plain form.  The form depends on the language, and so
  does the mark that shows that a header is there: a keyword or, without one, the
  parenthesis.  A header is matched where it starts (`Header.isSome_matchAt`),
  and one whose mark stands behind a match starts behind that match
  (`Header.Stands.behind_match`).
-/
import SnippetScope.Proofs.Outline.Calls
import SnippetScope.Proofs.Text.Occurrences

namespace SnippetScope

open Pattern (Place Progress Leads StopsAt Match holds)
open Unicode (isWord isBlank)

/-! ## Headers -/

namespace Language

/-- What shows that there is a function: its keyword or, without one, the
    parenthesis. -/
def functionMark : Language → List Char
  | .cpp | .c | .java => ['(']
  | .python => "def".toList
  | .go => "func".toList
  | .rust => "fn".toList

/-- What a plain header has in front of the name: nothing, a type, or the
    keyword. -/
def IsOpening (language : Language) (opening : List Char) : Prop :=
  match language with
  | .cpp | .c => opening = []
  | .java => ∃ type blanks, (type ≠ [] ∧ ∀ c ∈ type, isWord c = true)
      ∧ (blanks ≠ [] ∧ ∀ c ∈ blanks, isBlank c = true) ∧ opening = type ++ blanks
  | .python | .go | .rust => ∃ blanks, (blanks ≠ [] ∧ ∀ c ∈ blanks, isBlank c = true)
      ∧ opening = language.functionMark ++ blanks

end Language

/-- A plain header of a function, without a second mark between its
    parentheses. -/
structure Header (language : Language) where
  opening : List Char
  call : CallText
  closing : List Char
  isOpening : language.IsOpening opening
  isClosing : language.IsClosing closing
  plain : ¬ language.functionMark <:+: call.inner

namespace Header

variable {language : Language}

/-- The header as it is written. -/
def text (header : Header language) : List Char :=
  header.opening ++ (header.call.text ++ header.closing)

/-- What stands before the mark. -/
def beforeMark (header : Header language) : List Char :=
  if language.hasKeyword then [] else header.opening ++ (header.call.name ++ header.call.gap)

/-- What stands from the mark on. -/
def fromMark (header : Header language) : List Char :=
  header.text.drop header.beforeMark.length

/-- The header stands behind the stretch, and the name is a whole word there. -/
structure Stands (header : Header language) (start : Place) (stretch : List Char)
    (here : Place) : Prop where
  spans : start.Spans stretch here
  text_isPrefix : header.text <+: here.rest
  apart : language.IsUntyped → holds isWord here.prev = false

end Header

/-- The mark at the place, counted from the start, belongs to a plain header of the
    name. -/
def HeaderAt (language : Language) (start : Place) (place : Nat) (name : List Char) : Prop :=
  ∃ (header : Header language) (stretch : List Char) (here : Place),
    header.Stands start stretch here ∧ place = stretch.length + header.beforeMark.length
    ∧ header.call.name = name

/-- Each mark that stands behind the place belongs to a plain header. -/
def IsFlat (language : Language) (start : Place) : Prop :=
  ∀ place, Text.standsAt language.functionMark start.rest place = true →
    ∃ name, HeaderAt language start place name

/-! ## Marks -/

namespace Header

variable {language : Language}

theorem text_eq (header : Header language) :
    header.text = header.beforeMark ++ header.fromMark := by
  have hstarts : header.beforeMark <+: header.text := by
    rw [beforeMark]
    split
    · exact List.nil_prefix
    · refine ⟨'(' :: (header.call.inner ++ [')']) ++ header.closing, ?_⟩
      simp [text, CallText.text, CallText.parameters]
  rw [fromMark]
  exact (List.prefix_iff_eq_append.mp hstarts).symm

theorem mark_isPrefix_fromMark (header : Header language) :
    language.functionMark <+: header.fromMark := by
  have htext := header.text_eq
  rw [beforeMark, text] at htext
  cases language with
  | cpp | c | java =>
      simp only [Language.hasKeyword, Bool.false_eq_true, if_false, CallText.text, CallText.parameters,
        List.append_assoc, List.append_cancel_left_eq] at htext
      rw [← htext]
      exact List.prefix_append ['('] _
  | python | go | rust =>
      obtain ⟨blanks, -, hopening⟩ := header.isOpening
      simp only [Language.hasKeyword, if_true, hopening, List.append_assoc,
        List.nil_append] at htext
      rw [← htext]
      exact List.prefix_append _ _

/-- The mark of a header that stands in the text stands at its place. -/
theorem Stands.fromMark_isPrefix {header : Header language} {start here : Place}
    {stretch : List Char} (h : header.Stands start stretch here) :
    header.fromMark <+: start.rest.drop (stretch.length + header.beforeMark.length) := by
  obtain ⟨rest, hrest⟩ := h.text_isPrefix
  refine ⟨rest, ?_⟩
  have hall : start.rest = (stretch ++ header.beforeMark) ++ (header.fromMark ++ rest) := by
    rw [h.spans.rest_eq, ← hrest, header.text_eq]
    simp only [List.append_assoc]
  rw [hall, ← List.length_append, List.drop_left]

theorem text_ne_nil (header : Header language) : header.text ≠ [] := by
  simp [text, CallText.text, header.call.name_ne_nil]

/-- Where the language can start, so can a way through its pattern. -/
theorem exists_leads (header : Header language) {start here : Place}
    (h : start.Spans header.opening here) :
    Leads language.functionLead ⟨start, none⟩ ⟨here, none⟩ := by
  obtain ⟨opening, _, _, hopening, _, _⟩ := header
  have hoptional : ∀ {a : Pattern} {p : Progress}, Leads (Pattern.optional a) p p :=
    Pattern.leads_optional_iff.mpr (.inr rfl)
  have hgap : ∀ {p : Progress}, Leads Constructs.gap p p := fun {p} =>
    Pattern.leads_run_iff.mpr ⟨[], .refl p.place, by simp, Nat.zero_le _, rfl⟩
  have hrun : ∀ {set : CharSet} {p q : Place} {run : List Char}, p.Spans run q → run ≠ [] →
      (∀ c ∈ run, set c = true) → Leads (.longest set 1) ⟨p, none⟩ ⟨q, none⟩ :=
    fun hspan hne hset => Pattern.leads_run_iff.mpr
      ⟨_, hspan, hset, List.length_pos_iff.mpr hne, rfl⟩
  cases language with
  | cpp | c =>
      obtain rfl : opening = [] := hopening
      obtain rfl := h.stop_eq (.refl _)
      exact hoptional
  | java =>
      obtain ⟨type, blanks, ⟨htype, hword⟩, ⟨hblanks, hblank⟩, rfl⟩ := hopening
      obtain ⟨middle, hfirst, hsecond⟩ := h.split
      simp only [Language.functionLead, Pattern.leads_append_iff]
      exact ⟨⟨middle, none⟩, ⟨⟨start, none⟩, ⟨⟨start, none⟩, ⟨⟨start, none⟩, ⟨⟨start, none⟩,
        hoptional, hgap⟩, hoptional⟩, hgap⟩, hrun hfirst htype hword⟩,
        hrun hsecond hblanks hblank⟩
  | python | rust =>
      obtain ⟨blanks, ⟨hblanks, hblank⟩, rfl⟩ := hopening
      obtain ⟨middle, hfirst, hsecond⟩ := h.split
      exact Pattern.leads_append_iff.mpr ⟨⟨middle, none⟩, Pattern.leads_text_iff.mpr ⟨hfirst, rfl⟩,
        hrun hsecond hblanks hblank⟩
  | go =>
      obtain ⟨blanks, ⟨hblanks, hblank⟩, rfl⟩ := hopening
      obtain ⟨middle, hfirst, hsecond⟩ := h.split
      exact Pattern.leads_append_iff.mpr ⟨⟨here, none⟩, Pattern.leads_append_iff.mpr
        ⟨⟨middle, none⟩, Pattern.leads_text_iff.mpr ⟨hfirst, rfl⟩, hrun hsecond hblanks hblank⟩,
        hoptional⟩

/-- A header is matched where it starts. -/
theorem isSome_matchAt (header : Header language) {start : Place}
    (h : header.text <+: start.rest) :
    (language.constructs.functions.matchAt? start).isSome = true := by
  obtain ⟨rest, hrest⟩ := h
  have hspan : start.Spans header.opening
      ⟨header.opening.getLast?.or start.prev, (header.call.text ++ header.closing) ++ rest⟩ := by
    refine ⟨?_, rfl⟩
    rw [← hrest, text, List.append_assoc]
  exact Language.isSome_matchAt (header.exists_leads hspan) header.isClosing
    (List.prefix_append _ rest)

end Header

/-! ## Headers from a place on -/

section

variable {language : Language} {p q : Place} {name : List Char} {place : Nat}

theorem HeaderAt.standsAt (h : HeaderAt language p place name) :
    Text.standsAt language.functionMark p.rest place = true := by
  obtain ⟨header, stretch, here, hstands, rfl, -⟩ := h
  rw [Text.standsAt_iff]
  exact header.mark_isPrefix_fromMark.trans hstands.fromMark_isPrefix

/-- A header that a text goes on with at some place stands there. -/
theorem Header.headerAt_of_isPrefix_drop (header : Header language) {text : List Char}
    {start : Nat} (hstarts : header.text <+: text.drop start)
    (hapart : language.IsUntyped → holds isWord (text.take start).getLast? = false) :
    HeaderAt language ⟨none, text⟩ (start + header.beforeMark.length) header.call.name := by
  have hstart : start ≤ text.length := by
    by_contra hbehind
    rw [List.drop_eq_nil_of_le (by omega), List.prefix_nil] at hstarts
    exact header.text_ne_nil hstarts
  have hspan : (⟨none, text⟩ : Place).Spans (text.take start)
      ⟨(text.take start).getLast?, text.drop start⟩ :=
    ⟨(List.take_append_drop start text).symm, Option.or_none.symm⟩
  refine ⟨header, text.take start, _, ⟨hspan, hstarts, hapart⟩, ?_, rfl⟩
  rw [List.length_take_of_le hstart]

/-- A header behind a stretch is one of the whole. -/
theorem HeaderAt.prepend {stretch : List Char} (hspan : p.Spans stretch q)
    (h : HeaderAt language q place name) :
    HeaderAt language p (stretch.length + place) name := by
  obtain ⟨header, front, here, ⟨hspans, hstarts, hapart⟩, rfl, hname⟩ := h
  refine ⟨header, stretch ++ front, here, ⟨hspan.trans hspans, hstarts, hapart⟩, ?_, hname⟩
  rw [List.length_append]
  omega

/-- A header that starts behind a stretch is one of what follows the stretch. -/
theorem Header.Stands.exists_rest {header : Header language} {stretch front : List Char}
    {here : Place} (h : header.Stands p stretch here) (hspan : p.Spans front q)
    (hfront : front <+: stretch) : ∃ rest, stretch = front ++ rest ∧ header.Stands q rest here := by
  obtain ⟨rest, rfl⟩ := hfront
  obtain ⟨middle, hfirst, hsecond⟩ := h.spans.split
  obtain rfl := hspan.stop_eq hfirst
  exact ⟨rest, rfl, hsecond, h.text_isPrefix, h.apart⟩

/-- Where no match starts, the headers are those behind the next character. -/
theorem headerAt_cons_iff {prev : Option Char} {c : Char} {rest : List Char}
    (hnone : ∀ m, language.constructs.functions.matchAt? ⟨prev, c :: rest⟩ = some m → m.text = []) :
    HeaderAt language ⟨prev, c :: rest⟩ place name
      ↔ ∃ k, place = 1 + k ∧ HeaderAt language ⟨some c, rest⟩ k name := by
  constructor
  · rintro ⟨header, stretch, here, hstands, rfl, hname⟩
    cases stretch with
    | nil =>
        exfalso
        obtain rfl := hstands.spans.stop_eq (.refl _)
        obtain ⟨m, hm⟩ := Option.isSome_iff_exists.mp (header.isSome_matchAt hstands.text_isPrefix)
        exact Language.text_ne_nil_of_matchAt hm (hnone m hm)
    | cons d stretch =>
        have hfront : [c] <+: d :: stretch := by
          rw [hstands.spans.of_cons.1]
          exact List.prefix_append [c] stretch
        obtain ⟨rest, hstretch, hrest⟩ := hstands.exists_rest (.single prev c rest) hfront
        refine ⟨rest.length + header.beforeMark.length, ?_, header, rest, here, hrest, rfl, hname⟩
        rw [hstretch, List.length_append, List.length_singleton]
        omega
  · rintro ⟨k, rfl, hk⟩
    exact hk.prepend (.single prev c rest)

end

/-! ## Headers and matches -/

section

variable {language : Language} {p q : Place} {m : Match}

theorem Header.forall_mem_beforeMark (header : Header language) :
    ∀ c ∈ header.beforeMark, isWord c = true ∨ isBlank c = true := by
  rw [beforeMark]
  cases language with
  | python | go | rust => exact fun c hc => absurd hc List.not_mem_nil
  | cpp | c =>
      have hopening : header.opening = [] := header.isOpening
      simp only [Language.hasKeyword, Bool.false_eq_true, if_false, hopening, List.nil_append,
        List.forall_mem_append]
      exact ⟨fun c hc => .inl (header.call.isWord_name c hc),
        fun c hc => .inr (header.call.isBlank_gap c hc)⟩
  | java =>
      obtain ⟨type, blanks, ⟨-, htype⟩, ⟨-, hblanks⟩, hopening⟩ := header.isOpening
      simp only [Language.hasKeyword, Bool.false_eq_true, if_false, hopening,
        List.forall_mem_append]
      exact ⟨⟨fun c hc => .inl (htype c hc), fun c hc => .inr (hblanks c hc)⟩,
        fun c hc => .inl (header.call.isWord_name c hc),
        fun c hc => .inr (header.call.isBlank_gap c hc)⟩

/-- A header whose mark stands behind a match starts behind it. -/
theorem Header.Stands.behind_match {header : Header language} {stretch : List Char} {here : Place}
    (h : header.Stands p stretch here)
    (hmatch : language.constructs.functions.matchAt? p = some m)
    (hspan : p.Spans m.text q) (hle : m.text.length ≤ stretch.length + header.beforeMark.length) :
    m.text <+: stretch := by
  obtain ⟨rest, hrest⟩ := h.text_isPrefix
  have hall : (stretch ++ header.beforeMark) ++ (header.fromMark ++ rest) = m.text ++ q.rest := by
    rw [← hspan.rest_eq, h.spans.rest_eq, ← hrest, header.text_eq]
    simp only [List.append_assoc]
  have hmatched : m.text <+: stretch ++ header.beforeMark :=
    List.prefix_of_prefix_length_le ⟨q.rest, hall.symm⟩ (List.prefix_append _ _)
      (by rw [List.length_append]; exact hle)
  rcases Nat.le_total m.text.length stretch.length with hshort | hlong
  · exact List.prefix_of_prefix_length_le hmatched (List.prefix_append _ _) hshort
  · -- The end of the match would be in what stands before the mark.
    obtain ⟨behind, hbehind⟩ : stretch <+: m.text :=
      List.prefix_of_prefix_length_le (List.prefix_append _ _) hmatched hlong
    have hstarts : behind <+: header.beforeMark := by
      rwa [← hbehind, List.prefix_append_right_inj] at hmatched
    cases hlast : behind.getLast? with
    | none =>
        rw [List.getLast?_eq_none_iff] at hlast
        rw [← hbehind, hlast, List.append_nil]
    | some c =>
        exfalso
        have hmem : c ∈ header.beforeMark := hstarts.subset (List.mem_of_getLast? hlast)
        have hend : m.text.getLast? = some c := by
          rw [← hbehind, List.getLast?_append, hlast]
          rfl
        cases hkeyword : language.hasKeyword with
        | true =>
            rw [Header.beforeMark, hkeyword, if_pos rfl] at hmem
            cases hmem
        | false =>
            rw [Language.getLast?_text_of_matchAt hkeyword hmatch] at hend
            obtain rfl := Option.some.inj hend
            rcases header.forall_mem_beforeMark _ hmem with hword | hblank
            · cases hword
            · cases hblank

/-- The match covers the mark of one header, and gives the name of that. -/
def CoversOneHeader (language : Language) (start : Place) (m : Match) : Prop :=
  ∃ place₀ x₀, place₀ < m.text.length ∧ m.name = some x₀
    ∧ Text.standsAt language.functionMark start.rest place₀ = true
    ∧ ∀ place < m.text.length, ∀ x, HeaderAt language start place x → place = place₀ ∧ x = x₀

end

end SnippetScope
