/-
  SnippetScope.Proofs.Web.Target

  Targets for plain paths.  A path whose segments hold only characters that stand
  for themselves, and of which none stays where it is or goes back, is sent as it
  is written (`writePath_path`), and nothing but the parameter stands behind the
  question mark (`target?_path`), where a receiver looks for it (`queryOf_target`).
-/
import SnippetScope.Web.Target
import SnippetScope.Proofs.Web.Form
import Mathlib.Data.List.TakeWhile

namespace SnippetScope.Web

/-- The segments as a path, each behind a slash. -/
def path (segments : List (List Char)) : List Char :=
  segments.flatMap ('/' :: ·)

/-- A segment that is sent as it is written. -/
structure PlainSegment (segment : List Char) : Prop where
  chars : ∀ c ∈ segment, isPathChar c = true ∧ isSeparator c = false
  not_dot : isDot segment = false
  not_doubleDot : isDoubleDot segment = false

/-! ## Segments -/

theorem segments_cons {c : Char} (h : isSeparator c = false) {rest segment : List Char}
    {others : List (List Char)} (hrest : segments rest = segment :: others) :
    segments (c :: rest) = (c :: segment) :: others := by
  rw [segments, h, hrest]
  rfl

theorem segments_of_no_separator {segment : List Char}
    (h : ∀ c ∈ segment, isSeparator c = false) : segments segment = [segment] := by
  induction segment with
  | nil => rfl
  | cons c segment ih =>
      obtain ⟨hc, hsegment⟩ := List.forall_mem_cons.mp h
      exact segments_cons hc (ih hsegment)

theorem segments_append {segment : List Char} (h : ∀ c ∈ segment, isSeparator c = false)
    (rest : List Char) : segments (segment ++ '/' :: rest) = segment :: segments rest := by
  induction segment with
  | nil => rfl
  | cons c segment ih =>
      obtain ⟨hc, hsegment⟩ := List.forall_mem_cons.mp h
      exact segments_cons hc (ih hsegment)

/-- A path is cut into the segments it was made of, behind an empty one. -/
theorem segments_append_path {first : List Char} (hfirst : ∀ c ∈ first, isSeparator c = false)
    {others : List (List Char)}
    (hothers : ∀ segment ∈ others, ∀ c ∈ segment, isSeparator c = false) :
    segments (first ++ path others) = first :: others := by
  induction others generalizing first with
  | nil =>
      rw [path, List.flatMap_nil, List.append_nil]
      exact segments_of_no_separator hfirst
  | cons second others ih =>
      obtain ⟨hsecond, hothers⟩ := List.forall_mem_cons.mp hothers
      show segments (first ++ '/' :: (second ++ path others)) = first :: second :: others
      rw [segments_append hfirst, ih hsecond hothers]

/-- Segments that go on are added one by one. -/
theorem follow_eq_append {segs : List (List Char)}
    (h : ∀ segment ∈ segs, isDot segment = false ∧ isDoubleDot segment = false)
    (reached : List (List Char)) : follow reached segs = reached ++ segs := by
  induction segs generalizing reached with
  | nil => exact (List.append_nil reached).symm
  | cons segment others ih =>
      obtain ⟨⟨hdot, hdoubleDot⟩, hothers⟩ := List.forall_mem_cons.mp h
      cases others with
      | nil =>
          rw [follow, hdot, hdoubleDot]
          rfl
      | cons second others =>
          rw [follow, hdot, hdoubleDot, if_neg Bool.false_ne_true, if_neg Bool.false_ne_true,
            ih hothers, List.append_assoc]
          · rfl
          · exact List.cons_ne_nil second others

theorem escape_eq_self {plain : Char → Bool} {text : List Char}
    (h : ∀ c ∈ text, plain c = true) : escape plain text = text := by
  induction text with
  | nil => rfl
  | cons c text ih =>
      obtain ⟨hc, htext⟩ := List.forall_mem_cons.mp h
      have hrest : escape plain text = text := ih htext
      rw [escape] at hrest ⊢
      rw [List.flatMap_cons, hrest, if_pos hc, List.singleton_append]

/-! ## Whole targets -/

section

variable {segs : List (List Char)}

theorem writePath_path (hne : segs ≠ []) (h : ∀ segment ∈ segs, PlainSegment segment) :
    writePath (path segs) = path segs := by
  have hcut : segments (path segs) = [] :: segs := by
    apply segments_append_path (List.forall_mem_nil _)
    intro segment hsegment c hc
    exact ((h segment hsegment).chars c hc).2
  have hwritten : segs.map (escape isPathChar) = segs := by
    have hself : ∀ segment ∈ segs, escape isPathChar segment = id segment := by
      intro segment hsegment
      exact escape_eq_self fun c hc => ((h segment hsegment).chars c hc).1
    rw [List.map_congr_left hself, List.map_id]
  have hfollowed : follow [] segs = segs := by
    apply follow_eq_append
    intro segment hsegment
    exact ⟨(h segment hsegment).not_dot, (h segment hsegment).not_doubleDot⟩
  have hsome : segs.isEmpty = false := List.isEmpty_eq_false_iff.mpr hne
  rw [writePath, hcut]
  simp only [hsome, Bool.false_eq_true, if_false]
  rw [hwritten, hfollowed, path]

theorem isPathChar_of_mem_path (h : ∀ segment ∈ segs, PlainSegment segment) {c : Char}
    (hc : c ∈ path segs) : isPathChar c = true := by
  obtain ⟨segment, hsegment, hmem⟩ := List.mem_flatMap.mp hc
  rcases List.mem_cons.mp hmem with rfl | hmem
  · rfl
  · exact ((h segment hsegment).chars c hmem).1

theorem not_mem_path (h : ∀ segment ∈ segs, PlainSegment segment) {c : Char}
    (hc : isPathChar c = false) : c ∉ path segs := by
  intro hmem
  rw [isPathChar_of_mem_path h hmem] at hc
  cases hc

theorem bne_of_mem_path (h : ∀ segment ∈ segs, PlainSegment segment) {c d : Char}
    (hc : isPathChar c = false) (hd : d ∈ path segs) : (d != c) = true := by
  rw [bne_iff_ne]
  rintro rfl
  exact not_mem_path h hc hd

theorem takeWhile_path (h : ∀ segment ∈ segs, PlainSegment segment) {c : Char}
    (hc : isPathChar c = false) : (path segs).takeWhile (· != c) = path segs :=
  List.takeWhile_eq_self_iff.mpr fun _ hd => bne_of_mem_path h hc hd

/-- Behind a plain path comes the parameter, and nothing else. -/
theorem target?_path (hne : segs ≠ []) (h : ∀ segment ∈ segs, PlainSegment segment)
    (parameter value : List Char) :
    target? (path segs) parameter value
      = some (path segs ++ '?' :: writeParameter parameter value) := by
  have hkept : (path segs).filter (!isIgnored ·) = path segs := by
    rw [List.filter_eq_self]
    intro c hc
    have hplain := isPathChar_of_mem_path h hc
    rw [Bool.not_eq_true']
    by_contra hignored
    simp only [isIgnored, Bool.not_eq_false, Bool.or_eq_true, beq_iff_eq] at hignored
    rcases hignored with (rfl | rfl) | rfl <;> revert hplain <;> decide
  have hhead : (path segs).head? = some '/' := by
    cases segs with
    | nil => exact absurd rfl hne
    | cons segment others => rfl
  have hnothing : (path segs).drop ((path segs).length + 1) = [] :=
    List.drop_eq_nil_of_le (Nat.le_succ _)
  rw [target?, hkept, takeWhile_path h (by decide), hhead]
  simp only [takeWhile_path h (by decide : isPathChar '?' = false), hnothing, writePath_path hne h]
  simp [endsHost, isSeparator, escape, writeParameter]

/-! ## What a receiver finds -/

/-- The path of a target: what comes before its first question mark. -/
def pathOf (target : List Char) : List Char :=
  target.takeWhile (· != '?')

/-- The query of a target: what comes behind its first question mark. -/
def queryOf (target : List Char) : List Char :=
  (target.dropWhile (· != '?')).drop 1

theorem pathOf_target (h : ∀ segment ∈ segs, PlainSegment segment) (query : List Char) :
    pathOf (path segs ++ '?' :: query) = path segs := by
  have hplain : ∀ c ∈ path segs, (c != '?') = true := fun c => bne_of_mem_path h (by decide)
  rw [pathOf, List.takeWhile_append_of_pos hplain, List.takeWhile_cons_of_neg (by simp),
    List.append_nil]

theorem queryOf_target (h : ∀ segment ∈ segs, PlainSegment segment) (query : List Char) :
    queryOf (path segs ++ '?' :: query) = query := by
  have hplain : ∀ c ∈ path segs, (c != '?') = true := fun c => bne_of_mem_path h (by decide)
  rw [queryOf, List.dropWhile_append_of_pos hplain, List.dropWhile_cons_of_neg (by simp),
    List.drop_one, List.tail_cons]

end

end SnippetScope.Web
