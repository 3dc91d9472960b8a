/-
  SnippetScope.Proofs.Outline.BracedHeaders

  Headers in languages without a keyword, where the parenthesis is the mark.  What
  stands before a parenthesis can be read backwards in one way, so that a match and
  a header with the same parenthesis have the same call
  (`Header.Stands.call_eq_of_brace`).  In flat sources a match therefore covers the
  mark of just one header (`coversOneHeader_of_brace`).
-/
import SnippetScope.Proofs.Outline.Headers

namespace SnippetScope

open Pattern (Place Progress Leads StopsAt Match holds)
open Unicode (isWord isBlank)

variable {language : Language} {p q : Place} {m : Match}

theorem Language.functionMark_of_brace (h : language.hasKeyword = false) :
    language.functionMark = ['('] := by
  cases language with
  | cpp | c | java => rfl
  | python | go | rust => cases h

theorem Language.paren_not_mem_closing (h : language.hasKeyword = false) {closing : List Char}
    (hclosing : language.IsClosing closing) : '(' ∉ closing := by
  obtain ⟨gap, hgap, rfl⟩ := language.exists_gap_of_isClosing h hclosing
  intro hmem
  rcases List.mem_append.mp hmem with hmem | hmem
  · have hblank := hgap _ hmem
    cases hblank
  · cases List.mem_singleton.mp hmem

theorem Language.paren_not_mem_lead (h : language.hasKeyword = false) {a b : Progress}
    (hlead : Leads language.functionLead a b) {lead : List Char}
    (hspan : a.place.Spans lead b.place) : '(' ∉ lead := by
  have hword : Constructs.word.Within (· != '(') := by
    intro c hc
    rw [bne_iff_ne]
    rintro rfl
    cases hc
  have hblanks : Constructs.blanks.Within (· != '(') := by
    intro c hc
    rw [bne_iff_ne]
    rintro rfl
    cases hc
  have hwithin : language.functionLead.Within (· != '(') := by
    cases language with
    | cpp | c =>
        exact Pattern.within_optional_iff.mpr (Pattern.within_append_iff.mpr ⟨hword, hblanks⟩)
    | java =>
        simp only [functionLead, Pattern.within_append_iff, Pattern.within_orElse_iff,
          Pattern.within_optional_iff, Pattern.within_text_iff]
        have hpublic := List.all_eq_true.mp (by decide : "public".toList.all (· != '(') = true)
        have hprivate := List.all_eq_true.mp (by decide : "private".toList.all (· != '(') = true)
        have hprotected :=
          List.all_eq_true.mp (by decide : "protected".toList.all (· != '(') = true)
        have hstatic := List.all_eq_true.mp (by decide : "static".toList.all (· != '(') = true)
        exact ⟨⟨⟨⟨⟨⟨hpublic, hprivate, hprotected⟩, hblanks⟩, hstatic⟩, hblanks⟩, hword⟩, hblanks⟩
    | python | go | rust => cases h
  intro hmem
  have hne := hlead.forall_mem hwithin hspan _ hmem
  cases hne

/-- What stands before the name ends no word. -/
theorem Header.Stands.stopsAt (h : language.hasKeyword = false) {header : Header language}
    {stretch : List Char} {here : Place} (hstands : header.Stands p stretch here) :
    StopsAt isWord (stretch ++ header.opening).reverse := by
  cases language with
  | cpp =>
      rw [show header.opening = [] from header.isOpening, List.append_nil]
      exact hstands.spans.stopsAt_reverse (hstands.apart (.inl rfl))
  | c =>
      rw [show header.opening = [] from header.isOpening, List.append_nil]
      exact hstands.spans.stopsAt_reverse (hstands.apart (.inr rfl))
  | java =>
      obtain ⟨type, blanks, -, ⟨hne, hblank⟩, hopening⟩ := header.isOpening
      rw [hopening, ← List.dropLast_concat_getLast hne, ← List.append_assoc, ← List.append_assoc,
        List.reverse_concat]
      exact Pattern.stopsAt_cons
        (Unicode.isWord_eq_false_of_isBlank (hblank _ (List.getLast_mem hne)))
  | python | go | rust => cases h

/-- A header and a match with the same parenthesis have the same call. -/
theorem Header.Stands.call_eq_of_brace (hkeyword : language.hasKeyword = false)
    {header : Header language} {stretch : List Char} {here : Place}
    (hstands : header.Stands p stretch here) {lead behind : List Char} {call : CallText}
    (hrest : p.rest = lead ++ (call.text ++ behind)) (hlead : StopsAt isWord lead.reverse)
    (hplace : stretch.length + header.beforeMark.length
      = (lead ++ (call.name ++ call.gap)).length) :
    header.call = call := by
  obtain ⟨rest, hheader⟩ := hstands.text_isPrefix
  have hread : (stretch ++ header.opening) ++ (header.call.text ++ (header.closing ++ rest))
      = lead ++ (call.text ++ behind) := by
    rw [← hrest, hstands.spans.rest_eq, ← hheader, Header.text]
    simp only [List.append_assoc]
  have hlength : ((stretch ++ header.opening) ++ (header.call.name ++ header.call.gap)).length
      = (lead ++ (call.name ++ call.gap)).length := by
    rw [← hplace, Header.beforeMark, hkeyword, if_neg Bool.false_ne_true, List.append_assoc,
      List.length_append]
  exact CallText.eq_of_same_paren hread hlength (hstands.stopsAt hkeyword) hlead

/-- The one parenthesis of a match stands behind the name that the match gives. -/
theorem coversOneHeader_of_brace (hkeyword : language.hasKeyword = false)
    (hflat : IsFlat language p) (hfresh : language.Fresh p)
    (hmatch : language.constructs.functions.matchAt? p = some m) (hspan : p.Spans m.text q) :
    CoversOneHeader language p m := by
  obtain ⟨lead, closing, r, call, hlead, hfront, hclosing, rfl⟩ :=
    Language.exists_parts_of_matchAt hmatch
  have hrest : p.rest = lead ++ (call.text ++ (closing ++ q.rest)) := by
    rw [hspan.rest_eq]
    simp only [List.append_assoc]
  let before : List Char := lead ++ (call.name ++ call.gap)
  let after : List Char := call.inner ++ ')' :: closing
  have htext : lead ++ (call.text ++ closing) = before ++ '(' :: after := by
    simp [before, after, CallText.text, CallText.parameters]
  have hmark := Language.functionMark_of_brace hkeyword
  have hstands₀ : Text.standsAt language.functionMark p.rest before.length = true := by
    rw [Text.standsAt_iff, hmark, hspan.rest_eq, htext, List.append_assoc, List.drop_left]
    exact List.prefix_append ['('] _
  have hsame {header : Header language} {stretch : List Char} {here : Place}
      (hstands : header.Stands p stretch here)
      (hplace : stretch.length + header.beforeMark.length = before.length) : header.call = call :=
    hstands.call_eq_of_brace hkeyword hrest
      (hfront.stopsAt_reverse (hfresh.apart hmatch hlead)) hplace
  -- The header of the parenthesis tells that there is no other one in the match.
  obtain ⟨name₀, header₀, stretch₀, here₀, hheader₀, hplace₀, -⟩ := hflat before.length hstands₀
  have hinner : '(' ∉ call.inner := by
    intro hmem
    refine header₀.plain ?_
    rw [hsame hheader₀ hplace₀.symm, hmark]
    exact (List.singleton_infix_iff _ _).mpr hmem
  have hafter : '(' ∉ after := by
    have hend : '(' ∉ ')' :: closing :=
      List.not_mem_cons_of_ne_of_not_mem (by decide)
        (Language.paren_not_mem_closing hkeyword hclosing)
    exact List.not_mem_append hinner hend
  have hbefore : '(' ∉ before := by
    have hname : '(' ∉ call.name := by
      intro hmem
      have hword := call.isWord_name _ hmem
      cases hword
    have hgap : '(' ∉ call.gap := by
      intro hmem
      have hblank := call.isBlank_gap _ hmem
      cases hblank
    exact List.not_mem_append (Language.paren_not_mem_lead hkeyword hlead hfront)
      (List.not_mem_append hname hgap)
  refine ⟨before.length, call.name, ?_, rfl, hstands₀, ?_⟩
  · calc before.length < before.length + ('(' :: after).length := by simp
      _ = (before ++ '(' :: after).length := List.length_append.symm
      _ = (lead ++ (call.text ++ closing)).length := by rw [htext]
  · intro place hlt x hx
    have hplace : place = before.length := by
      have hstands := hx.standsAt
      rw [hmark, hspan.rest_eq, htext] at hstands
      exact Text.eq_length_of_standsAt_singleton hbefore hafter (htext ▸ hlt) hstands
    obtain ⟨header, stretch, here, hheader, heq, rfl⟩ := hx
    exact ⟨hplace, congrArg CallText.name (hsame hheader (heq.symm.trans hplace))⟩

end SnippetScope
