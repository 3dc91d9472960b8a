/-
  SnippetScope.Proofs.Outline.KeywordHeaders

  Headers in languages with a keyword, which is the mark.  What stands behind a
  keyword can be read in one way, so that a match and a header at one place have
  the same call (`Header.call_eq_of_keyword`), and a header is free of others
  (`HeaderFree.body`).  In flat sources a match therefore covers the mark of just
  one header (`coversOneHeader_of_keyword`).
-/
import SnippetScope.Proofs.Outline.Headers

namespace SnippetScope

open Pattern (Place Progress Leads StopsAt Match holds)
open Unicode (isWord isBlank)

variable {language : Language} {p q : Place} {m : Match}

theorem Language.isWord_functionMark (h : language.hasKeyword = true) :
    ∀ c ∈ language.functionMark, isWord c = true := by
  rw [← List.all_eq_true]
  cases language with
  | python | go | rust => decide
  | cpp | c | java => cases h

theorem Language.unbordered_functionMark (h : language.hasKeyword = true) :
    Text.Unbordered language.functionMark := by
  cases language with
  | python | go | rust => decide
  | cpp | c | java => cases h

theorem Language.functionMark_ne_nil (language : Language) : language.functionMark ≠ [] := by
  cases language <;> decide

/-- Between the keyword and the name stand blanks, or something that starts with a
    parenthesis. -/
theorem Language.exists_blanks_of_lead (h : language.hasKeyword = true) {a b : Progress}
    (hlead : Leads language.functionLead a b) :
    ∃ blanks s, a.place.Spans (language.functionMark ++ blanks) s
      ∧ (blanks ≠ [] ∧ ∀ c ∈ blanks, isBlank c = true)
      ∧ (s = b.place ∨ ∃ rest, s.rest = '(' :: rest) := by
  have hkeyword : ∀ {keyword : String} {b : Progress},
      Leads (Pattern.text keyword ++ Constructs.blanks) a b →
      ∃ blanks, a.place.Spans (keyword.toList ++ blanks) b.place
        ∧ (blanks ≠ [] ∧ ∀ c ∈ blanks, isBlank c = true) := by
    intro keyword b hlead
    obtain ⟨r, hword, hblanks⟩ := Pattern.leads_append_iff.mp hlead
    obtain ⟨run, hrun, hset, hleast, -⟩ := Pattern.leads_run_iff.mp hblanks
    exact ⟨run, (Pattern.leads_text_iff.mp hword).1.trans hrun, List.length_pos_iff.mp hleast, hset⟩
  cases language with
  | cpp | c | java => cases h
  | python =>
      obtain ⟨blanks, hspan, hblanks⟩ := hkeyword hlead
      exact ⟨blanks, b.place, hspan, hblanks, .inl rfl⟩
  | rust =>
      obtain ⟨blanks, hspan, hblanks⟩ := hkeyword hlead
      exact ⟨blanks, b.place, hspan, hblanks, .inl rfl⟩
  | go =>
      obtain ⟨s, hfront, hreceiver⟩ := Pattern.leads_append_iff.mp hlead
      obtain ⟨blanks, hspan, hblanks⟩ := hkeyword hfront
      refine ⟨blanks, s.place, hspan, hblanks, ?_⟩
      rcases Pattern.leads_optional_iff.mp hreceiver with hreceiver | rfl
      · simp only [Constructs.mark, Pattern.leads_append_iff, Pattern.leads_mark_iff] at hreceiver
        obtain ⟨_, ⟨_, ⟨_, ⟨_, ⟨t, ⟨_, ⟨hparen, -⟩, -⟩, -⟩, -⟩, -⟩, -⟩, -⟩ := hreceiver
        exact .inr ⟨_, hparen.rest_eq⟩
      · exact .inl rfl

theorem Header.exists_blanks (h : language.hasKeyword = true) (header : Header language) :
    ∃ blanks, (blanks ≠ [] ∧ ∀ c ∈ blanks, isBlank c = true)
      ∧ header.opening = language.functionMark ++ blanks := by
  cases language with
  | cpp | c | java => cases h
  | python | go | rust => exact header.isOpening

/-- A header at the place of a match has the call of the match. -/
theorem Header.call_eq_of_keyword (h : language.hasKeyword = true) {header : Header language}
    (hheader : header.text <+: p.rest) {lead behind : List Char} {r : Progress} {call : CallText}
    (hlead : Leads language.functionLead ⟨p, none⟩ r) (hfront : p.Spans lead r.place)
    (hcall : r.place.rest = call.text ++ behind) :
    lead = header.opening ∧ header.call = call := by
  obtain ⟨rest, hrest⟩ := hheader
  obtain ⟨blanks, s, hspan, ⟨-, hblank⟩, hs⟩ := Language.exists_blanks_of_lead h hlead
  obtain ⟨blanks₀, ⟨-, hblank₀⟩, hopening⟩ := header.exists_blanks h
  have hread : language.functionMark ++ (blanks ++ s.rest)
      = language.functionMark ++ (blanks₀ ++ (header.call.text ++ (header.closing ++ rest))) := by
    rw [← List.append_assoc, ← hspan.rest_eq, ← hrest, Header.text, hopening]
    simp only [List.append_assoc]
  have hstop : StopsAt isBlank s.rest := by
    rcases hs with rfl | ⟨inner, hinner⟩
    · rw [hcall]
      exact call.stopsAt_text behind
    · rw [hinner]
      exact Pattern.stopsAt_cons rfl
  obtain ⟨rfl, hbehind⟩ := Pattern.run_unique (List.append_cancel_left hread) hblank hblank₀ hstop
    (header.call.stopsAt_text _)
  rcases hs with rfl | ⟨inner, hinner⟩
  · refine ⟨?_, (CallText.text_unique (hcall.symm.trans hbehind)).1.symm⟩
    rw [hopening]
    exact hfront.upTo_eq.symm.trans hspan.upTo_eq
  · exact absurd (hbehind.symm.trans hinner) (header.call.text_append_ne_paren _ inner)

/-- No header starts in the stretch, with what follows it. -/
def HeaderFree (language : Language) (stretch behind : List Char) : Prop :=
  ∀ place < stretch.length, ∀ header : Header language,
    ¬ header.text <+: (stretch ++ behind).drop place

namespace HeaderFree

variable {a b stretch behind : List Char}

theorem append (ha : HeaderFree language a (b ++ behind)) (hb : HeaderFree language b behind) :
    HeaderFree language (a ++ b) behind := by
  intro place hplace header
  rw [List.append_assoc]
  rcases Nat.lt_or_ge place a.length with hfirst | hsecond
  · exact ha place hfirst header
  · obtain ⟨k, rfl⟩ := Nat.exists_eq_add_of_le hsecond
    rw [List.drop_length_add_append]
    rw [List.length_append] at hplace
    exact hb k (by omega) header

/-- A header starts with its keyword. -/
theorem mark_isPrefix_text (h : language.hasKeyword = true) (header : Header language) :
    language.functionMark <+: header.text := by
  obtain ⟨blanks, -, hopening⟩ := header.exists_blanks h
  rw [Header.text, hopening, List.append_assoc]
  exact List.prefix_append _ _

theorem of_not_word (h : language.hasKeyword = true) (hstretch : ∀ c ∈ stretch, isWord c = false) :
    HeaderFree language stretch behind := by
  intro place hplace header hheader
  obtain ⟨d, mark, hmark⟩ := List.exists_cons_of_ne_nil language.functionMark_ne_nil
  have hword : isWord d = true := Language.isWord_functionMark h d (hmark ▸ List.mem_cons_self)
  have hstands := (mark_isPrefix_text h header).trans hheader
  rw [hmark, List.drop_append_of_le_length hplace.le, List.drop_eq_getElem_cons hplace,
    List.cons_append, List.cons_prefix_cons] at hstands
  rw [hstands.1, hstretch _ (List.getElem_mem hplace)] at hword
  cases hword

/-- Within a name a keyword could only stand at the end, and then no other name
    follows. -/
theorem name (h : language.hasKeyword = true) (call : CallText) (behind : List Char) :
    HeaderFree language call.name (call.gap ++ '(' :: behind) := by
  intro place hplace header hheader
  obtain ⟨rest, hrest⟩ := hheader
  obtain ⟨blanks, ⟨hne, hblank⟩, hopening⟩ := header.exists_blanks h
  have hread : call.name.drop place ++ (call.gap ++ '(' :: behind)
      = language.functionMark ++ (blanks ++ (header.call.text ++ (header.closing ++ rest))) := by
    rw [← List.drop_append_of_le_length hplace.le, ← hrest, Header.text, hopening]
    simp only [List.append_assoc]
  have hgap : StopsAt isWord (call.gap ++ '(' :: behind) :=
    CallText.stopsAt_gap call.isBlank_gap (Pattern.stopsAt_cons rfl)
  have hblanks : StopsAt isWord (blanks ++ (header.call.text ++ (header.closing ++ rest))) := by
    obtain ⟨c, tail, rfl⟩ := List.exists_cons_of_ne_nil hne
    exact Pattern.stopsAt_cons (Unicode.isWord_eq_false_of_isBlank (hblank c List.mem_cons_self))
  -- Both runs of word characters end here, and both runs of blanks behind them.
  obtain ⟨-, hbehind⟩ := Pattern.run_unique hread
    (fun c hc => call.isWord_name c (List.mem_of_mem_drop hc)) (Language.isWord_functionMark h)
    hgap hblanks
  obtain ⟨-, hparen⟩ := Pattern.run_unique hbehind call.isBlank_gap hblank
    (Pattern.stopsAt_cons rfl) (header.call.stopsAt_text _)
  exact header.call.text_append_ne_paren _ behind hparen.symm

theorem inner (h : language.hasKeyword = true) {inner : List Char}
    (hinner : ¬ language.functionMark <:+: inner) : HeaderFree language inner (')' :: behind) := by
  intro place hplace header hheader
  have hstands := (mark_isPrefix_text h header).trans hheader
  rw [List.drop_append_of_le_length hplace.le] at hstands
  have hparen : ')' ∉ language.functionMark := by
    intro hmem
    have hword := Language.isWord_functionMark h _ hmem
    cases hword
  have hwithin := Text.prefix_of_prefix_append_cons hparen hstands
  exact hinner (hwithin.isInfix.trans (List.drop_suffix place inner).isInfix)

/-- Behind its keyword a header is free of others. -/
theorem body (h : language.hasKeyword = true) (header : Header language)
    {blanks closing : List Char} (hblank : ∀ c ∈ blanks, isBlank c = true)
    (hclosing : language.IsClosing closing) :
    HeaderFree language (blanks ++ (header.call.text ++ closing)) behind := by
  have hgap : ∀ c ∈ header.call.gap ++ ['('], isWord c = false := by
    rw [List.forall_mem_append]
    exact ⟨fun c hc => Unicode.isWord_eq_false_of_isBlank (header.call.isBlank_gap c hc),
      List.forall_mem_singleton.mpr rfl⟩
  have hend : ∀ c ∈ ')' :: closing, isWord c = false := by
    refine List.forall_mem_cons.mpr ⟨rfl, ?_⟩
    cases language with
    | python =>
        rw [show closing = [':'] from hclosing]
        exact List.forall_mem_singleton.mpr rfl
    | go | rust =>
        rw [show closing = [] from hclosing]
        exact List.forall_mem_nil _
    | cpp | c | java => cases h
  have hparts : header.call.text ++ closing = header.call.name
      ++ ((header.call.gap ++ ['(']) ++ (header.call.inner ++ (')' :: closing))) := by
    simp [CallText.text, CallText.parameters]
  rw [hparts]
  refine .append (.of_not_word h fun c hc => ?_) (.append ?_ (.append (.of_not_word h hgap)
    (.append ?_ (.of_not_word h hend))))
  · exact Unicode.isWord_eq_false_of_isBlank (hblank c hc)
  · simp only [List.append_assoc]
    exact .name h header.call _
  · exact .inner h header.plain

end HeaderFree

/-- The one keyword of a match that starts a header stands in front. -/
theorem coversOneHeader_of_keyword (hkeyword : language.hasKeyword = true)
    (hflat : IsFlat language p) (hmatch : language.constructs.functions.matchAt? p = some m)
    (hspan : p.Spans m.text q) : CoversOneHeader language p m := by
  have hpos : 0 < m.text.length :=
    List.length_pos_iff.mpr (Language.text_ne_nil_of_matchAt hmatch)
  obtain ⟨lead, closing, r, call, hlead, hfront, hclosing, rfl⟩ :=
    Language.exists_parts_of_matchAt hmatch
  have hcall : r.place.rest = call.text ++ (closing ++ q.rest) := by
    have hrest := hfront.rest_eq.symm.trans hspan.rest_eq
    simp only [List.append_assoc] at hrest
    exact List.append_cancel_left hrest
  have hmark : language.functionMark <+: p.rest := by
    obtain ⟨blanks, s, hblanks, -, -⟩ := Language.exists_blanks_of_lead hkeyword hlead
    rw [show p.rest = _ from hblanks.rest_eq, List.append_assoc]
    exact List.prefix_append _ _
  have hbefore (header : Header language) : header.beforeMark.length = 0 := by
    rw [Header.beforeMark, hkeyword, if_pos rfl, List.length_nil]
  have hsame {header : Header language} {here : Place} (hheader : header.Stands p [] here) :
      lead = header.opening ∧ header.call = call := by
    obtain rfl := hheader.spans.stop_eq (.refl _)
    exact header.call_eq_of_keyword hkeyword hheader.text_isPrefix hlead hfront hcall
  -- The header in front is the match, as far as its call goes.
  obtain ⟨name₀, header₀, stretch₀, here₀, hheader₀, hplace₀, -⟩ :=
    hflat 0 (Text.standsAt_iff.mpr hmark)
  obtain rfl : stretch₀ = [] := List.length_eq_zero_iff.mp (by omega)
  obtain ⟨rfl, rfl⟩ := hsame hheader₀
  obtain ⟨blanks, ⟨-, hblank⟩, hopening⟩ := header₀.exists_blanks hkeyword
  have hbody : HeaderFree language (blanks ++ (header₀.call.text ++ closing)) q.rest :=
    .body hkeyword header₀ hblank hclosing
  have htext : header₀.opening ++ (header₀.call.text ++ closing)
      = language.functionMark ++ (blanks ++ (header₀.call.text ++ closing)) := by
    rw [hopening, List.append_assoc]
  refine ⟨0, header₀.call.name, hpos, rfl, Text.standsAt_iff.mpr hmark, ?_⟩
  intro place hlt x hx
  have hstands := Text.standsAt_iff.mp hx.standsAt
  obtain ⟨header, stretch, here, hheader, rfl, rfl⟩ := hx
  have hstarts := hheader.fromMark_isPrefix
  rw [hbefore, Nat.add_zero] at hlt hstands hstarts ⊢
  rcases Nat.eq_zero_or_pos stretch.length with hzero | hpositive
  · obtain rfl := List.length_eq_zero_iff.mp hzero
    exact ⟨hzero, congrArg CallText.name (hsame hheader).2⟩
  · -- Further on, a header would start within the keyword or behind it.
    exfalso
    rcases Nat.lt_or_ge stretch.length language.functionMark.length with hinside | hbehind
    · exact (Language.unbordered_functionMark hkeyword).not_standsAt hmark hpositive hinside hstands
    · obtain ⟨k, hk⟩ := Nat.exists_eq_add_of_le hbehind
      rw [hspan.rest_eq, htext, List.append_assoc, hk, List.drop_length_add_append,
        Header.fromMark, hbefore, List.drop_zero] at hstarts
      refine hbody k ?_ header hstarts
      have hlong : stretch.length < (header₀.opening ++ (header₀.call.text ++ closing)).length := hlt
      rw [htext, List.length_append, hk] at hlong
      omega

end SnippetScope
