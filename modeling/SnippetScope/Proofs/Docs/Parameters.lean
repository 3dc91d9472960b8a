/-
  SnippetScope.Proofs.Docs.Parameters

  The parameters that documentation shows for a function.  They are looked up by
  the name of the function, with a pattern made for it, in the text in which the
  search for functions found the name.  The main statement is that the lookup
  succeeds for every function of an outline and gives what stands in parentheses
  behind the first place of the name (`parameters_of_function`).
-/
import SnippetScope.Proofs.Docs.Template
import SnippetScope.Proofs.Outline.Calls
import SnippetScope.Proofs.Pattern.First
import Mathlib.Data.Nat.Find

namespace SnippetScope.Docs

open Pattern (Place Leads Match holds)
open Unicode (isWord)

/-! ## Places of calls -/

/-- At the place a word starts, and it is the name with the text in parentheses
    behind it, up to the next closing one. -/
def CallAt (text name : List Char) (place : Nat) (inner : List Char) : Prop :=
  ∃ call : CallText, call.name = name ∧ call.inner = inner ∧ call.text <+: text.drop place
    ∧ holds isWord (text.take place).getLast? = false

/-- The text in parentheses behind the first place of the name. -/
def FirstCall (text name inner : List Char) : Prop :=
  ∃ place, CallAt text name place inner
    ∧ ∀ earlier < place, ∀ other, ¬ CallAt text name earlier other

theorem CallAt.lt_length {text name inner : List Char} {place : Nat}
    (h : CallAt text name place inner) : place < text.length := by
  obtain ⟨call, -, -, hcall, -⟩ := h
  have hne : call.text ≠ [] := by
    simp [CallText.text, call.name_ne_nil]
  have hpos : 0 < call.text.length := List.length_pos_iff.mpr hne
  have hle := hcall.length_le
  rw [List.length_drop] at hle
  omega

/-- If there is such a place, there is a first one. -/
theorem exists_firstCall {text name inner : List Char} {place : Nat}
    (h : CallAt text name place inner) : ∃ inner, FirstCall text name inner := by
  classical
  have hsome : ∃ place inner, CallAt text name place inner := ⟨place, inner, h⟩
  obtain ⟨inner, hinner⟩ := Nat.find_spec hsome
  refine ⟨inner, Nat.find hsome, hinner, fun earlier hearlier other hother => ?_⟩
  exact Nat.find_min hsome hearlier ⟨other, hother⟩

theorem FirstCall.unique {text name inner other : List Char} (h : FirstCall text name inner)
    (h' : FirstCall text name other) : inner = other := by
  obtain ⟨place, hplace, hfirst⟩ := h
  obtain ⟨place', hplace', hfirst'⟩ := h'
  have hsame : place = place' := by
    rcases Nat.lt_trichotomy place place' with hlt | heq | hlt
    · exact absurd hplace (hfirst' place hlt inner)
    · exact heq
    · exact absurd hplace' (hfirst place' hlt other)
  subst hsame
  obtain ⟨call, -, rfl, ⟨rest, hcall⟩, -⟩ := hplace
  obtain ⟨call', -, rfl, ⟨rest', hcall'⟩, -⟩ := hplace'
  rw [(CallText.text_unique (hcall.trans hcall'.symm)).1]

/-! ## The pattern of parameters -/

section

variable {name : String} {p : Place}

theorem atBoundary_of_call {call : CallText} (hcall : call.text <+: p.rest) :
    p.atBoundary = !holds isWord p.prev := by
  obtain ⟨c, word, hword⟩ := List.exists_cons_of_ne_nil call.name_ne_nil
  obtain ⟨rest, hrest⟩ := hcall
  have hhead : p.rest.head? = some c := by
    rw [← hrest, CallText.text, hword]
    rfl
  have hc : holds isWord (some c) = true := call.isWord_name c (hword ▸ List.mem_cons_self)
  rw [Place.atBoundary, hhead, hc, Bool.bne_true]

/-- The ways through the pattern: over a call of the name, where a word starts. -/
theorem leads_parameterPattern_iff (hname : IsName name) {q : Pattern.Progress} :
    Leads (parameterPattern name) ⟨p, none⟩ q ↔ ∃ (call : CallText) (s t : Place),
      call.name = name.toList ∧ holds isWord p.prev = false
      ∧ p.Spans (call.name ++ (call.gap ++ ['('])) s ∧ s.Spans call.inner t
      ∧ t.Spans [')'] q.place ∧ q.named = some (s, t) := by
  simp only [parameterPattern, Constructs.gap, Constructs.mark, Pattern.leads_append_iff,
    Pattern.leads_boundary_iff, Pattern.leads_text_iff, Pattern.leads_run_iff,
    Pattern.leads_mark_iff, Pattern.leads_namedRun_iff, Constructs.forall_noneOf_closing_iff]
  constructor
  · rintro ⟨t, ⟨s, ⟨v, ⟨u, ⟨_, ⟨hboundary, rfl⟩, hword, -⟩, gap, hgap, hblank, -, -⟩, hopening, -⟩,
      inner, hinner, hplain, -, ht⟩, hclosing, hq⟩
    -- The name starts with a word character, so that the boundary is about the one before.
    let call : CallText := ⟨name.toList, gap, inner, hname.ne_nil, hname.isWord, hblank, hplain⟩
    have hfront := (hword.trans (hgap.trans hopening))
    have hall := (hfront.trans hinner).trans hclosing
    have hcall : call.text <+: p.rest := by
      refine ⟨q.place.rest, ?_⟩
      rw [hall.rest_eq]
      simp [call, CallText.text, CallText.parameters]
    rw [atBoundary_of_call hcall, Bool.not_eq_true'] at hboundary
    exact ⟨call, s.place, t.place, rfl, hboundary, hfront, hinner, hclosing, hq.trans ht⟩
  · rintro ⟨call, s, t, hcalled, hapart, hfront, hinner, hclosing, hq⟩
    have hall := (hfront.trans hinner).trans hclosing
    have hcall : call.text <+: p.rest := by
      refine ⟨q.place.rest, ?_⟩
      rw [hall.rest_eq]
      simp [CallText.text, CallText.parameters]
    have hboundary : p.atBoundary = true := by
      rw [atBoundary_of_call hcall, hapart]
      rfl
    obtain ⟨u, hword, hbehind⟩ := hfront.split
    obtain ⟨v, hgap, hopening⟩ := hbehind.split
    rw [hcalled] at hword
    exact ⟨⟨t, some (s, t)⟩, ⟨⟨s, none⟩, ⟨⟨v, none⟩, ⟨⟨u, none⟩,
      ⟨⟨p, none⟩, ⟨hboundary, rfl⟩, hword, rfl⟩, call.gap, hgap, call.isBlank_gap, Nat.zero_le _,
        rfl⟩, hopening, rfl⟩, call.inner, hinner, call.closing_not_mem, Nat.zero_le _, rfl⟩,
      hclosing, hq⟩

/-- Every match stands where a word starts, at a call of the name. -/
theorem exists_call_of_parameterPattern (hname : IsName name) {m : Match}
    (h : (parameterPattern name).matchAt? p = some m) :
    ∃ call : CallText, call.name = name.toList ∧ call.text <+: p.rest
      ∧ holds isWord p.prev = false ∧ m.name = some call.inner := by
  obtain ⟨stop, hlead, -, hgiven⟩ := Pattern.exists_leads_of_matchAt h
  obtain ⟨call, s, t, hcalled, hapart, hfront, hinner, hclosing, hnamed⟩ :=
    (leads_parameterPattern_iff hname).mp hlead
  have hall := (hfront.trans hinner).trans hclosing
  refine ⟨call, hcalled, ⟨stop.place.rest, ?_⟩, hapart, ?_⟩
  · rw [hall.rest_eq]
    simp [CallText.text, CallText.parameters]
  · rw [hgiven, hnamed, Option.map_some, hinner.upTo_eq]

/-- A match of the pattern gives what stands in the parentheses of a call. -/
theorem matchAt_parameterPattern {call : CallText} (hcalled : call.name = name.toList)
    (hcall : call.text <+: p.rest) (hapart : holds isWord p.prev = false) :
    ∃ m, (parameterPattern name).matchAt? p = some m ∧ m.name = some call.inner := by
  have hname : IsName name := ⟨hcalled ▸ call.name_ne_nil, hcalled ▸ call.isWord_name⟩
  obtain ⟨rest, hrest⟩ := hcall
  have hspan : p.Spans ((call.name ++ (call.gap ++ ['('])) ++ (call.inner ++ [')']))
      ⟨((call.name ++ (call.gap ++ ['('])) ++ (call.inner ++ [')'])).getLast?.or p.prev, rest⟩ := by
    refine ⟨?_, rfl⟩
    rw [← hrest, CallText.text, CallText.parameters]
    simp only [List.append_assoc, List.cons_append, List.nil_append]
  obtain ⟨s, hfront, hbehind⟩ := hspan.split
  obtain ⟨t, hinner, hclosing⟩ := hbehind.split
  have hsome : ((parameterPattern name).matchAt? p).isSome = true :=
    Pattern.isSome_matchAt_iff.mpr ⟨⟨_, some (s, t)⟩, (leads_parameterPattern_iff hname).mpr
      ⟨call, s, t, hcalled, hapart, hfront, hinner, hclosing, rfl⟩⟩
  obtain ⟨m, hm⟩ := Option.isSome_iff_exists.mp hsome
  obtain ⟨other, hother, hcall', -, hgiven⟩ := exists_call_of_parameterPattern hname hm
  obtain ⟨rest', hrest'⟩ := hcall'
  obtain ⟨rfl, -⟩ := CallText.text_unique (hrest.trans hrest'.symm)
  exact ⟨m, hm, hgiven⟩

end

/-! ## Parameters of functions -/

/-- The lookup gives what stands behind the first place of a name. -/
theorem parameters?_of_firstCall {text name : String} (hname : IsName name) {inner : List Char}
    (h : FirstCall text.toList name.toList inner) :
    parameters? text name = some (String.ofList (Text.squeeze inner)) := by
  -- The places of calls are the places of matches, so that the first ones agree.
  obtain ⟨place, hplace, hfirst⟩ := h
  obtain ⟨call, hcalled, rfl, hcall, hapart⟩ := hplace
  have hprev (n : Nat) : ((⟨none, text.toList⟩ : Place).ahead n).prev
      = (text.toList.take n).getLast? := Option.or_none
  obtain ⟨m, hm, hgiven⟩ := matchAt_parameterPattern (p := (⟨none, text.toList⟩ : Place).ahead place)
    hcalled hcall (hprev place ▸ hapart)
  have hnone : ∀ earlier < place,
      (parameterPattern name).matchAt? ((⟨none, text.toList⟩ : Place).ahead earlier) = none := by
    intro earlier hearlier
    by_contra hmatch
    obtain ⟨m', hm'⟩ := Option.ne_none_iff_exists'.mp hmatch
    obtain ⟨other, hother, hcall', hapart', -⟩ := exists_call_of_parameterPattern hname hm'
    exact hfirst earlier hearlier other.inner ⟨other, hother, rfl, hcall', hprev earlier ▸ hapart'⟩
  have hfound : (parameterPattern name).find? text.toList = some m :=
    Pattern.find?_of_first (CallAt.lt_length ⟨call, hcalled, rfl, hcall, hapart⟩) hm hnone
  rw [parameters?, hfound, Option.bind_some, hgiven, Option.map_some]

/-- A function is said to have no parameters if there is nothing to see in its
    parentheses. -/
theorem describeParameters_eq_none_iff {stripped name : String} {inner : List Char}
    (h : parameters? stripped name = some (String.ofList (Text.squeeze inner))) :
    Subject.describeParameters stripped name = "- " ++ code name ++ ": " ++ "no parameters"
      ↔ Text.allBlank inner = true := by
  rw [← Text.squeeze_eq_nil_iff, Subject.describeParameters, h]
  generalize Text.squeeze inner = list
  cases list with
  | nil => exact iff_of_true rfl rfl
  | cons c rest =>
      refine iff_of_false ?_ (List.cons_ne_nil c rest)
      intro hsame
      -- The list is shown as code, so that it starts with a backquote.
      have hshown : (String.ofList (c :: rest)).isEmpty = false := by
        simp
      simp only [hshown, Bool.false_eq_true, if_false] at hsame
      rw [← String.toList_inj] at hsame
      simp only [String.toList_append] at hsame
      have htail := List.append_cancel_left hsame
      exact absurd (congrArg List.head? htail) (by simp [code, backquote])

/-- Every function of an outline has its parameters found: they are what stands
    in parentheses behind the first place of its name, on one line and with single
    spaces.  None are shown only if there is nothing to see there. -/
theorem parameters_of_function {language : Language} {text name : String}
    (h : name ∈ (Outline.ofText language text).functions) :
    ∃ inner, (∀ other, FirstCall (Outline.ofText language text).stripped.toList name.toList other
        ↔ other = inner)
      ∧ parameters? (Outline.ofText language text).stripped name
        = some (String.ofList (Text.squeeze inner))
      ∧ Text.SinglySpaced (Text.squeeze inner)
      ∧ (Subject.describeParameters (Outline.ofText language text).stripped name
          = "- " ++ code name ++ ": " ++ "no parameters"
        ↔ Text.allBlank inner = true) := by
  have hstripped : (Outline.ofText language text).stripped.toList
      = stripComments language text.toList := String.toList_ofList
  obtain ⟨stretch, here, call, hhere, hapart, hcall, hcalled⟩ :=
    Outline.exists_call_of_mem_functions h
  have hplace : CallAt (stripComments language text.toList) name.toList stretch.length
      call.inner := by
    refine ⟨call, hcalled, rfl, ?_, ?_⟩
    · rwa [show stripComments language text.toList = stretch ++ here.rest from hhere.rest_eq,
        List.drop_left]
    · rw [show stripComments language text.toList = stretch ++ here.rest from hhere.rest_eq,
        List.take_left]
      rwa [hhere.prev_eq, Option.or_none] at hapart
  obtain ⟨inner, hfirst⟩ := exists_firstCall hplace
  rw [← hstripped] at hfirst
  have hfound := parameters?_of_firstCall (Outline.isName_of_mem_functions h) hfirst
  refine ⟨inner, fun other => ?_, hfound, Text.singlySpaced_squeeze inner,
    describeParameters_eq_none_iff hfound⟩
  constructor
  · intro hother
    exact hother.unique hfirst
  · rintro rfl
    exact hfirst

/-- A function that is announced before it is defined. -/
def announced : String := "int f( int a,\n  int b );\nint f(int x, int y) \x7b \x7d"

theorem mem_functions_announced : "f" ∈ (Outline.ofText .c announced).functions := by
  have hfunctions : (Outline.ofText .c announced).functions = ["f"] := by decide +kernel
  rw [hfunctions]
  exact List.mem_singleton_self "f"

/-- The announcement comes first, so that its parameters are shown. -/
theorem parameters_of_announced : "f" ∈ (Outline.ofText .c announced).functions
    ∧ ∃ inner, (∀ other, FirstCall (Outline.ofText .c announced).stripped.toList "f".toList other
        ↔ other = inner)
      ∧ parameters? (Outline.ofText .c announced).stripped "f"
        = some (String.ofList (Text.squeeze inner))
      ∧ Text.SinglySpaced (Text.squeeze inner)
      ∧ (Subject.describeParameters (Outline.ofText .c announced).stripped "f"
          = "- " ++ code "f" ++ ": " ++ "no parameters" ↔ Text.allBlank inner = true) :=
  ⟨mem_functions_announced, parameters_of_function mem_functions_announced⟩

end SnippetScope.Docs
