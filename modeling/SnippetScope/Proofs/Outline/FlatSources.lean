/-
  SnippetScope.Proofs.Outline.FlatSources

  Sources in which each mark of a function belongs to a plain header.  The search
  goes from header to header (`meets_headers`), so that it lists exactly these, in
  their order and with their full names (`functions_listed`), whatever else is in
  the text.
-/
import SnippetScope.Proofs.Outline.BracedHeaders
import SnippetScope.Proofs.Outline.KeywordHeaders
import SnippetScope.Proofs.Pattern.Listing

namespace SnippetScope

open Pattern (Place)

/-- From flat sources on, the search meets the headers. -/
theorem meets_headers (language : Language) :
    Pattern.Meets language.constructs.functions
      (fun start => language.Fresh start ∧ IsFlat language start) (HeaderAt language) where
  done prev place name := by
    rintro ⟨header, stretch, here, hstands, -, -⟩
    have hrest : here.rest = [] := (List.append_eq_nil_iff.mp hstands.spans.rest_eq.symm).2
    have hstarts := hstands.text_isPrefix
    rw [hrest, List.prefix_nil] at hstarts
    exact header.text_ne_nil hstarts
  kept prev c rest hgood hnone := by
    refine ⟨⟨.kept hnone, fun place hplace => ?_⟩, fun place name => headerAt_cons_iff hnone⟩
    -- A mark behind the character has its header there.
    obtain ⟨name, hname⟩ := hgood.2 (place + 1) hplace
    obtain ⟨k, hk, hheader⟩ := (headerAt_cons_iff hnone).mp hname
    obtain rfl : place = k := by omega
    exact ⟨name, hheader⟩
  found p q m hgood hmatch hspan := by
    obtain ⟨hfresh, hflat⟩ := hgood
    have hbehind : ∀ {place : Nat} {name : List Char}, HeaderAt language p place name →
        m.text.length ≤ place → ∃ k, place = m.text.length + k ∧ HeaderAt language q k name := by
      rintro place name ⟨header, stretch, here, hstands, rfl, hname⟩ hle
      obtain ⟨rest, rfl, hrest⟩ :=
        hstands.exists_rest hspan (hstands.behind_match hmatch hspan hle)
      refine ⟨rest.length + header.beforeMark.length, ?_, header, rest, here, hrest, rfl, hname⟩
      rw [List.length_append]
      omega
    have hcovers : CoversOneHeader language p m := by
      cases hkeyword : language.hasKeyword with
      | true => exact coversOneHeader_of_keyword hkeyword hflat hmatch hspan
      | false => exact coversOneHeader_of_brace hkeyword hflat hfresh hmatch hspan
    obtain ⟨place₀, x₀, hlt, hname, hstands, honly⟩ := hcovers
    have hheader : HeaderAt language p place₀ x₀ := by
      obtain ⟨name, hheader⟩ := hflat place₀ hstands
      obtain ⟨-, rfl⟩ := honly place₀ hlt name hheader
      exact hheader
    refine ⟨⟨.found hmatch hspan, fun place hplace => ?_⟩, place₀, x₀, hlt, hname, fun place x => ?_⟩
    · have hstands : Text.standsAt language.functionMark p.rest (m.text.length + place) = true := by
        rw [Text.standsAt, hspan.rest_eq, List.drop_length_add_append]
        exact hplace
      obtain ⟨name, hname⟩ := hflat _ hstands
      obtain ⟨k, hk, hheader⟩ := hbehind hname (by omega)
      obtain rfl : place = k := by omega
      exact ⟨name, hheader⟩
    · constructor
      · intro hx
        rcases Nat.lt_or_ge place m.text.length with hwithin | hle
        · exact .inl (honly place hwithin x hx)
        · exact .inr (hbehind hx hle)
      · rintro (⟨rfl, rfl⟩ | ⟨k, rfl, hk⟩)
        · exact hheader
        · exact hk.prepend hspan

namespace Outline

/-- The functions of a text without comments in which each mark belongs to a plain
    header: they are the names of the headers, in their order, whatever else the
    text holds. -/
theorem functions_listed {language : Language} {text : String}
    (h : IsFlat language ⟨none, stripComments language text.toList⟩) :
    ∃ listed, Pattern.Lists (HeaderAt language ⟨none, stripComments language text.toList⟩) listed
      ∧ (ofText language text).functions = listed.map fun entry => String.ofList entry.2 := by
  have hcuts := Pattern.cuts_pieces language.constructs.functions
    (stripComments language text.toList)
  obtain ⟨listed, hlists, hnames⟩ :=
    hcuts.exists_lists (meets_headers language) ⟨Language.fresh_of_apart rfl, h⟩
  refine ⟨listed, hlists, ?_⟩
  calc (ofText language text).functions
      = namesIn language.constructs.functions (stripComments language text.toList) := rfl
    _ = (listed.map Prod.snd).map String.ofList := by
      rw [namesIn_eq language.namesWords_functions, Pattern.findAll, hnames]
    _ = listed.map fun entry => String.ofList entry.2 := List.map_map

/-- A source with two functions.  Between them stand a parenthesis in a comment and
    a declaration. -/
def doubling : String :=
  "int twice(int n) \x7b return n + n; \x7d // (\nint m;\nint once (int n)\n\x7b return n; \x7d"

/-- The source without its comment. -/
def bareDoubling : List Char :=
  "int twice(int n) \x7b return n + n; \x7d \nint m;\nint once (int n)\n\x7b return n; \x7d".toList

theorem stripComments_doubling : stripComments .c doubling.toList = bareDoubling := by
  decide +kernel

/-- In this language a call with a brace behind it is a header, if its name is a
    whole word. -/
theorem headerAt_of_call {call : CallText} {gap : List Char}
    (hgap : ∀ c ∈ gap, Unicode.isBlank c = true) (hplain : ¬ ['('] <:+: call.inner)
    {text : List Char} {start : Nat}
    (hstarts : call.text ++ (gap ++ ['\x7b']) <+: text.drop start)
    (hapart : Pattern.holds Unicode.isWord (text.take start).getLast? = false) :
    HeaderAt .c ⟨none, text⟩ (start + (call.name ++ call.gap).length) call.name := by
  let header : Header .c := {
    opening := []
    call
    closing := gap ++ ['\x7b']
    isOpening := rfl
    isClosing := ⟨gap, hgap, rfl⟩
    plain := hplain }
  exact header.headerAt_of_isPrefix_drop hstarts fun _ => hapart

theorem headerAt_twice : HeaderAt .c ⟨none, bareDoubling⟩ 9 "twice".toList := by
  let call : CallText := ⟨"twice".toList, [], "int n".toList, by decide,
    List.all_eq_true.mp (by decide), List.forall_mem_nil _, by decide⟩
  have hstarts : call.text ++ ([' '] ++ ['\x7b']) <+: bareDoubling.drop 4 := by decide
  exact headerAt_of_call (List.forall_mem_singleton.mpr rfl) (by decide) hstarts rfl

theorem headerAt_once : HeaderAt .c ⟨none, bareDoubling⟩ 52 "once".toList := by
  let call : CallText := ⟨"once".toList, [' '], "int n".toList, by decide,
    List.all_eq_true.mp (by decide), List.forall_mem_singleton.mpr rfl, by decide⟩
  have hstarts : call.text ++ (['\n'] ++ ['\x7b']) <+: bareDoubling.drop 47 := by decide
  exact headerAt_of_call (List.forall_mem_singleton.mpr rfl) (by decide) hstarts rfl

theorem isFlat_doubling : IsFlat .c ⟨none, stripComments .c doubling.toList⟩ := by
  have hmarks : ∀ place < bareDoubling.length,
      Text.standsAt ['('] bareDoubling place = true → place = 9 ∨ place = 52 := by
    decide +kernel
  rw [stripComments_doubling]
  intro place hplace
  obtain ⟨hlt, -⟩ := List.getElem?_eq_some_iff.mp (Text.standsAt_singleton_iff.mp hplace)
  rcases hmarks place hlt hplace with rfl | rfl
  · exact ⟨_, headerAt_twice⟩
  · exact ⟨_, headerAt_once⟩

theorem functions_of_doubling :
    IsFlat .c ⟨none, stripComments .c doubling.toList⟩
      ∧ Pattern.Lists (HeaderAt .c ⟨none, stripComments .c doubling.toList⟩)
          [(9, "twice".toList), (52, "once".toList)]
      ∧ (ofText .c doubling).functions = ["twice", "once"] := by
  have hfunctions : (ofText .c doubling).functions = ["twice", "once"] := by decide +kernel
  obtain ⟨listed, hlists, hlisted⟩ := functions_listed isFlat_doubling
  obtain ⟨⟨a, first⟩, later, rfl, hfirst, hlater⟩ :=
    List.map_eq_cons_iff.mp (hlisted.symm.trans hfunctions)
  obtain ⟨⟨b, second⟩, rfl, hsecond⟩ := List.map_eq_singleton_iff.mp hlater
  obtain rfl : first = "twice".toList := by rw [← hfirst, String.toList_ofList]
  obtain rfl : second = "once".toList := by rw [← hsecond, String.toList_ofList]
  -- Two names are listed, and both headers are, which gives the places.
  have htwice := (hlists.mem_iff 9 _).mpr (stripComments_doubling ▸ headerAt_twice)
  have honce := (hlists.mem_iff 52 _).mpr (stripComments_doubling ▸ headerAt_once)
  obtain rfl : a = 9 := by simpa [eq_comm] using htwice
  obtain rfl : b = 52 := by simpa [eq_comm] using honce
  exact ⟨isFlat_doubling, hlists, hfunctions⟩

end Outline

end SnippetScope
