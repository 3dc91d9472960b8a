/-
  SnippetScope.Proofs.Structure.Groups

  The groups of a text between two marks, given by the places where they stand.
  The search finds exactly these and in the order of their places
  (`groups_listed`), whatever nesting the text has: only innermost groups are
  free of marks, and none of them overlaps another one.
-/
import SnippetScope.Proofs.Pattern.Listing
import SnippetScope.Proofs.Pattern.Ways
import SnippetScope.Structure.Detection

namespace SnippetScope.ArrayLiteral

open Pattern (Place Leads StopsAt)

/-- At the place stands the opening mark, behind it the inner text, which is not
    empty and holds neither mark, and behind that the closing mark. -/
structure GroupAt (opening closing : Char) (text : List Char) (place : Nat)
    (inner : List Char) : Prop where
  stands : ∃ behind, text.drop place = opening :: (inner ++ closing :: behind)
  ne_nil : inner ≠ []
  plain : opening ∉ inner ∧ closing ∉ inner

variable {opening closing : Char} {inner : List Char}

/-! ## Places of groups -/

theorem not_groupAt_nil {place : Nat} : ¬ GroupAt opening closing [] place inner := by
  rintro ⟨⟨behind, hstands⟩, -, -⟩
  rw [List.drop_nil] at hstands
  cases hstands

theorem groupAt_cons_succ {d : Char} {rest : List Char} {place : Nat} :
    GroupAt opening closing (d :: rest) (place + 1) inner
      ↔ GroupAt opening closing rest place inner := by
  constructor
  · rintro ⟨hstands, hne, hplain⟩
    exact ⟨hstands, hne, hplain⟩
  · rintro ⟨hstands, hne, hplain⟩
    exact ⟨hstands, hne, hplain⟩

/-- No group starts in a stretch without the opening mark. -/
theorem groupAt_append_iff {stretch rest : List Char} (h : opening ∉ stretch) {place : Nat} :
    GroupAt opening closing (stretch ++ rest) place inner
      ↔ ∃ k, place = stretch.length + k ∧ GroupAt opening closing rest k inner := by
  induction stretch generalizing place with
  | nil => simp
  | cons d stretch ih =>
      obtain ⟨hd, hstretch⟩ := List.ne_and_not_mem_of_not_mem_cons h
      cases place with
      | zero =>
          constructor
          · rintro ⟨⟨behind, hstands⟩, -, -⟩
            exact absurd (List.cons.inj hstands).1.symm hd
          · rintro ⟨k, hk, -⟩
            rw [List.length_cons] at hk
            omega
      | succ place =>
          rw [List.cons_append, groupAt_cons_succ, ih hstretch]
          refine exists_congr fun k => and_congr_left fun _ => ?_
          rw [List.length_cons]
          omega

/-! ## The pattern of a group -/

theorem forall_mem_inner_iff :
    (∀ d ∈ inner, (d != opening && d != closing) = true) ↔ opening ∉ inner ∧ closing ∉ inner := by
  simp only [Bool.and_eq_true, bne_iff_ne, ne_eq]
  constructor
  · intro h
    exact ⟨fun hmem => (h _ hmem).1 rfl, fun hmem => (h _ hmem).2 rfl⟩
  · rintro ⟨hopening, hclosing⟩ d hd
    exact ⟨fun heq => hopening (heq ▸ hd), fun heq => hclosing (heq ▸ hd)⟩

/-- A match is a group that starts at its place, and the name is what the group
    holds. -/
theorem groupAt_of_matchAt {start : Place} {m : Pattern.Match}
    (h : (group opening closing).matchAt? start = some m) :
    ∃ inner, GroupAt opening closing start.rest 0 inner
      ∧ m = ⟨opening :: (inner ++ [closing]), some inner⟩ := by
  obtain ⟨stop, hlead, hspan, hname⟩ := Pattern.exists_leads_of_matchAt h
  rw [group, Pattern.leads_append_iff] at hlead
  obtain ⟨behind, hfront, hclosing⟩ := hlead
  obtain ⟨front, hopening, hinner⟩ := Pattern.leads_append_iff.mp hfront
  obtain ⟨hspan₁, -⟩ := Pattern.leads_mark_iff.mp hopening
  obtain ⟨inner, hspan₂, hset, hleast, hnamed⟩ := Pattern.leads_namedRun_iff.mp hinner
  obtain ⟨hspan₃, hsame⟩ := Pattern.leads_mark_iff.mp hclosing
  have hall := (hspan₁.trans hspan₂).trans hspan₃
  have htext : m.text = opening :: (inner ++ [closing]) := hspan.upTo_eq.symm.trans hall.upTo_eq
  have hgiven : m.name = some inner := by
    rw [hname, hsame, hnamed, Option.map_some, hspan₂.upTo_eq]
  refine ⟨inner, ⟨⟨stop.place.rest, ?_⟩, ?_, forall_mem_inner_iff.mp hset⟩, ?_⟩
  · rw [List.drop_zero, hall.rest_eq]
    simp
  · exact List.length_pos_iff.mp hleast
  · cases m
    simp_all

/-- What a group holds is determined by its place. -/
theorem GroupAt.inner_eq {text other : List Char} {place : Nat}
    (h : GroupAt opening closing text place inner) (h' : GroupAt opening closing text place other) :
    inner = other := by
  obtain ⟨⟨behind, hstands⟩, -, hplain⟩ := h
  obtain ⟨⟨behind', hstands'⟩, -, hplain'⟩ := h'
  have hsame := (List.cons.inj (hstands.symm.trans hstands')).2
  have hstop (rest : List Char) :
      StopsAt (fun d => d != opening && d != closing) (closing :: rest) :=
    Pattern.stopsAt_cons (by simp)
  exact (Pattern.run_unique hsame (forall_mem_inner_iff.mpr hplain)
    (forall_mem_inner_iff.mpr hplain') (hstop _) (hstop _)).1

theorem matchAt_of_groupAt {start : Place} (h : GroupAt opening closing start.rest 0 inner) :
    (group opening closing).matchAt? start
      = some ⟨opening :: (inner ++ [closing]), some inner⟩ := by
  have hsome : ((group opening closing).matchAt? start).isSome = true := by
    obtain ⟨⟨behind, hstands⟩, hne, hplain⟩ := h
    obtain ⟨prev, text⟩ := start
    obtain rfl : text = opening :: (inner ++ closing :: behind) := hstands
    let start : Place := ⟨prev, opening :: (inner ++ closing :: behind)⟩
    let front : Place := ⟨some opening, inner ++ closing :: behind⟩
    let back : Place := ⟨inner.getLast?.or (some opening), closing :: behind⟩
    have hopening : Leads (.one (· == opening)) ⟨start, none⟩ ⟨front, none⟩ :=
      Pattern.leads_mark_iff.mpr ⟨.single _ _ _, rfl⟩
    have hinner : Leads (.naming (.longest (fun d => d != opening && d != closing) 1))
        ⟨front, none⟩ ⟨back, some (front, back)⟩ :=
      Pattern.leads_namedRun_iff.mpr ⟨inner, .append _ _ _, forall_mem_inner_iff.mpr hplain,
        List.length_pos_iff.mpr hne, rfl⟩
    have hclosing : Leads (.one (· == closing)) ⟨back, some (front, back)⟩
        ⟨⟨some closing, behind⟩, some (front, back)⟩ :=
      Pattern.leads_mark_iff.mpr ⟨.single _ _ _, rfl⟩
    exact Pattern.isSome_matchAt_iff.mpr ⟨_, .seq (.seq hopening hinner) hclosing⟩
  obtain ⟨m, hm⟩ := Option.isSome_iff_exists.mp hsome
  obtain ⟨other, hother, rfl⟩ := groupAt_of_matchAt hm
  rw [hm, h.inner_eq hother]

/-! ## All groups -/

/-- A group in front stands apart from those behind it. -/
theorem groupAt_group_iff {text other : List Char} {place : Nat} (hmarks : opening ≠ closing)
    (h : GroupAt opening closing (opening :: (inner ++ closing :: text)) 0 inner) :
    GroupAt opening closing (opening :: (inner ++ closing :: text)) place other
      ↔ (place = 0 ∧ other = inner)
        ∨ ∃ k, place = inner.length + 2 + k ∧ GroupAt opening closing text k other := by
  have hbehind : opening ∉ inner ++ [closing] := by
    simp [h.plain.1, hmarks]
  cases place with
  | zero =>
      constructor
      · intro hother
        exact .inl ⟨rfl, hother.inner_eq h⟩
      · rintro (⟨-, rfl⟩ | ⟨k, hk, -⟩)
        · exact h
        · omega
  | succ place =>
      rw [groupAt_cons_succ, List.append_cons, groupAt_append_iff hbehind,
        List.length_append, List.length_singleton]
      constructor
      · rintro ⟨k, hk, hother⟩
        exact .inr ⟨k, by omega, hother⟩
      · rintro (⟨hzero, -⟩ | ⟨k, hk, hother⟩)
        · omega
        · exact ⟨k, by omega, hother⟩

/-- The search meets the groups, and nothing but the groups. -/
theorem meets_group (hmarks : opening ≠ closing) :
    Pattern.Meets (group opening closing) (fun _ => True)
      (fun start => GroupAt opening closing start.rest) where
  done _ _ _ := not_groupAt_nil
  kept prev d rest _ hnone := by
    refine ⟨trivial, fun place inner => ?_⟩
    cases place with
    | zero =>
        constructor
        · intro hgroup
          have hmatch := @matchAt_of_groupAt _ _ _ ⟨prev, d :: rest⟩ hgroup
          exact absurd (hnone _ hmatch) (by simp)
        · rintro ⟨k, hk, -⟩
          omega
    | succ place =>
        rw [groupAt_cons_succ]
        constructor
        · intro hgroup
          exact ⟨place, by omega, hgroup⟩
        · rintro ⟨k, hk, hgroup⟩
          obtain rfl : place = k := by omega
          exact hgroup
  found p q m _ hmatch hspan := by
    obtain ⟨inner, hgroup, rfl⟩ := groupAt_of_matchAt hmatch
    have hrest : p.rest = opening :: (inner ++ closing :: q.rest) := by
      rw [hspan.rest_eq]
      simp
    rw [hrest] at hgroup ⊢
    refine ⟨trivial, 0, inner, by simp, rfl, fun place other => ?_⟩
    rw [groupAt_group_iff hmarks hgroup]
    simp

/-- The search lists the groups. -/
theorem groups_listed (hmarks : opening ≠ closing) (text : List Char) :
    ∃ listed, Pattern.Lists (GroupAt opening closing text) listed
      ∧ listed.map Prod.snd = groups opening closing text := by
  obtain ⟨listed, hlists, hnames⟩ :=
    (Pattern.cuts_pieces (group opening closing) text).exists_lists (meets_group hmarks) trivial
  exact ⟨listed, hlists, hnames.symm⟩

end SnippetScope.ArrayLiteral
