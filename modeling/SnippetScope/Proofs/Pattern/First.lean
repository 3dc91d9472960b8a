/-
  SnippetScope.Proofs.Pattern.First

  What comes first counts.  When a shortest run stands between two texts, it ends
  where the second one starts for the first time (`matchAt_enclosed`), and of all
  matches of a text the one found is that at the first place
  (`find?_of_first`).
-/
import SnippetScope.Pattern.Search
import SnippetScope.Proofs.Pattern.Leads

namespace SnippetScope.Pattern

/-- The mark starts at no place of a text, with what follows the text. -/
def StartsNowhere (mark text behind : List Char) : Prop :=
  ∀ rest, rest ≠ [] → rest <:+ text → ¬ mark <+: rest ++ behind

namespace StartsNowhere

variable {mark text behind : List Char} {c : Char}

theorem head (h : StartsNowhere mark (c :: text) behind) : ¬ mark <+: c :: (text ++ behind) :=
  h (c :: text) (by simp) List.suffix_rfl

theorem tail (h : StartsNowhere mark (c :: text) behind) : StartsNowhere mark text behind :=
  fun rest hne hrest => h rest hne (hrest.trans (List.suffix_cons c text))

end StartsNowhere

variable {α : Type}

/-- A fixed text that stands at the place is passed over. -/
theorem tryMatch_text_of_spans {literal : String} {p : Progress} {q : Place}
    {next : Progress → Option α} (h : p.place.Spans literal.toList q) :
    tryMatch (text literal) p next = next ⟨q, p.named⟩ := by
  rw [text]
  generalize literal.toList = chars at h ⊢
  induction chars generalizing p with
  | nil =>
      obtain ⟨place, named⟩ := p
      obtain rfl : place = q := (Place.Spans.refl place).stop_eq h
      rfl
  | cons c chars ih =>
      obtain ⟨⟨prev, rest⟩, named⟩ := p
      obtain rfl : rest = c :: (chars ++ q.rest) := h.rest_eq
      simp only [List.foldr_cons, tryMatch, BEq.rfl, if_true]
      exact ih h.of_cons.2

theorem tryMatch_text_of_not_prefix {literal : String} {p : Progress}
    {next : Progress → Option α} (h : ¬ literal.toList <+: p.place.rest) :
    tryMatch (text literal) p next = none := by
  refine Option.eq_none_iff_forall_ne_some.mpr fun found hfound => h ?_
  obtain ⟨q, hlead, -⟩ := exists_leads_of_tryMatch hfound
  exact ⟨q.place.rest, (leads_text_iff.mp hlead).1.rest_eq.symm⟩

/-- The shortest run ends at the first place from which it can be gone on. -/
theorem tryShortest_of_first {next : Place → Option α} {prev : Option Char}
    {run behind : List Char}
    (hbefore : ∀ prev rest, rest ≠ [] → rest <:+ run → next ⟨prev, rest ++ behind⟩ = none)
    (hnext : (next ⟨run.getLast?.or prev, behind⟩).isSome) :
    tryShortest (fun _ => true) next prev (run ++ behind)
      = next ⟨run.getLast?.or prev, behind⟩ := by
  induction run generalizing prev with
  | nil =>
      obtain ⟨found, hfound⟩ := Option.isSome_iff_exists.mp hnext
      rw [List.nil_append, List.getLast?_nil, Option.none_or] at *
      cases behind with
      | nil => rw [tryShortest]
      | cons c behind => rw [tryShortest, hfound]
  | cons c run ih =>
      have hlast : (c :: run).getLast?.or prev = run.getLast?.or (some c) := by
        rw [List.getLast?_cons]
        cases run.getLast? <;> rfl
      have hhere : next ⟨prev, c :: (run ++ behind)⟩ = none :=
        hbefore prev (c :: run) (by simp) List.suffix_rfl
      rw [hlast] at hnext ⊢
      rw [List.cons_append, tryShortest, hhere]
      refine ih (fun prev rest hne hrest => ?_) hnext
      exact hbefore prev rest hne (hrest.trans (List.suffix_cons c run))

/-- Between two texts the shortest run goes to where the second one starts. -/
theorem matchAt_enclosed {opening closing : String} {body behind : List Char}
    (h : StartsNowhere closing.toList body (closing.toList ++ behind)) (prev : Option Char) :
    matchAt? (text opening ++ .shortest (fun _ => true) ++ text closing)
        ⟨prev, opening.toList ++ (body ++ (closing.toList ++ behind))⟩
      = some ⟨opening.toList ++ (body ++ closing.toList), none⟩ := by
  let start : Place := ⟨prev, opening.toList ++ (body ++ (closing.toList ++ behind))⟩
  let inner : Place := ⟨opening.toList.getLast?.or prev, body ++ (closing.toList ++ behind)⟩
  let before : Place := ⟨body.getLast?.or inner.prev, closing.toList ++ behind⟩
  let stop : Place := ⟨closing.toList.getLast?.or before.prev, behind⟩
  have hopening : start.Spans opening.toList inner := .append _ _ _
  have hclosing : before.Spans closing.toList stop := .append _ _ _
  have hall : start.Spans (opening.toList ++ (body ++ closing.toList)) stop :=
    hopening.trans ((Place.Spans.append _ body _).trans hclosing)
  -- The continuation of the run: the closing text, and then the match is complete.
  let next : Place → Option Match := fun place =>
    tryMatch (text closing) ⟨place, none⟩ fun q =>
      some ⟨start.upTo q.place, q.named.map fun ends => ends.1.upTo ends.2⟩
  have hnext : next before = some ⟨start.upTo stop, none⟩ := tryMatch_text_of_spans hclosing
  have hbefore : ∀ prev rest, rest ≠ [] → rest <:+ body →
      next ⟨prev, rest ++ (closing.toList ++ behind)⟩ = none :=
    fun prev rest hne hrest => tryMatch_text_of_not_prefix (h rest hne hrest)
  calc matchAt? (text opening ++ .shortest (fun _ => true) ++ text closing) start
      = tryShortest (fun _ => true) next inner.prev inner.rest := tryMatch_text_of_spans hopening
    _ = next before := tryShortest_of_first hbefore (by rw [hnext]; rfl)
    _ = some ⟨opening.toList ++ (body ++ closing.toList), none⟩ := by rw [hnext, hall.upTo_eq]

/-! ## The first match of a text -/

/-- The place a number of characters further on. -/
def Place.ahead (p : Place) (n : Nat) : Place :=
  ⟨(p.rest.take n).getLast?.or p.prev, p.rest.drop n⟩

theorem Place.ahead_zero (p : Place) : p.ahead 0 = p := by
  rw [ahead, List.take_zero, List.getLast?_nil, Option.none_or, List.drop_zero]

theorem Place.ahead_cons (prev : Option Char) (c : Char) (rest : List Char) (n : Nat) :
    (⟨prev, c :: rest⟩ : Place).ahead (n + 1) = (⟨some c, rest⟩ : Place).ahead n := by
  rw [ahead, ahead, List.take_succ_cons, List.drop_succ_cons, List.getLast?_cons]
  cases (rest.take n).getLast? <;> rfl

theorem findFrom?_of_first {pattern : Pattern} {p : Place} {n : Nat} {m : Match}
    (hlt : n < p.rest.length) (hmatch : matchAt? pattern (p.ahead n) = some m)
    (hfirst : ∀ earlier < n, matchAt? pattern (p.ahead earlier) = none) :
    findFrom? pattern p.prev p.rest = some m := by
  -- The search goes on character by character, and so does the induction.
  obtain ⟨prev, text⟩ := p
  induction text generalizing prev n with
  | nil => exact absurd hlt (Nat.not_lt_zero n)
  | cons c rest ih =>
      cases n with
      | zero =>
          rw [Place.ahead_zero] at hmatch
          simp only [findFrom?, hmatch]
      | succ n =>
          have hhere := hfirst 0 (Nat.succ_pos n)
          rw [Place.ahead_zero] at hhere
          rw [Place.ahead_cons] at hmatch
          simp only [findFrom?, hhere]
          refine ih (some c) (Nat.lt_of_succ_lt_succ hlt) hmatch fun earlier hearlier => ?_
          rw [← Place.ahead_cons prev]
          exact hfirst (earlier + 1) (Nat.succ_lt_succ hearlier)

/-- The match at the first place that has one is found. -/
theorem find?_of_first {pattern : Pattern} {text : List Char} {n : Nat} {m : Match}
    (hlt : n < text.length) (hmatch : matchAt? pattern ((⟨none, text⟩ : Place).ahead n) = some m)
    (hfirst : ∀ earlier < n, matchAt? pattern ((⟨none, text⟩ : Place).ahead earlier) = none) :
    find? pattern text = some m :=
  findFrom?_of_first (p := ⟨none, text⟩) hlt hmatch hfirst

end SnippetScope.Pattern
