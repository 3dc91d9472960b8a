/-
  SnippetScope.Proofs.Pattern.Ways

  The ways through patterns as they are built: what a way passes over and what
  it names, part by part.  With these equivalences a pattern is read as a
  statement on stretches of text (`leads_append_iff`, `leads_run_iff`), and two
  readings of one text agree because a run ends where its set does
  (`run_unique`).
-/
import SnippetScope.Proofs.Pattern.Leads

namespace SnippetScope.Pattern

/-! ## Runs of characters -/

section Runs

variable {set : CharSet} {run run' rest rest' : List Char}

/-- The text does not go on with a character of the set. -/
def StopsAt (set : CharSet) (rest : List Char) : Prop :=
  ∀ c ∈ rest.head?, set c = false

theorem stopsAt_cons {c : Char} {rest : List Char} (h : set c = false) : StopsAt set (c :: rest) := by
  intro d hd
  rw [List.head?_cons, Option.mem_some_iff] at hd
  rw [← hd]
  exact h

theorem takeWhile_run (hrun : ∀ c ∈ run, set c = true) (hstop : StopsAt set rest) :
    (run ++ rest).takeWhile set = run := by
  have hrest : rest.takeWhile set = [] := by
    cases rest with
    | nil => rfl
    | cons c rest => rw [List.takeWhile_cons, hstop c (by simp), if_neg Bool.false_ne_true]
  rw [List.takeWhile_append_of_pos hrun, hrest, List.append_nil]

/-- A text starts with one run that stops where the set does. -/
theorem run_unique (h : run ++ rest = run' ++ rest') (hrun : ∀ c ∈ run, set c = true)
    (hrun' : ∀ c ∈ run', set c = true) (hstop : StopsAt set rest) (hstop' : StopsAt set rest') :
    run = run' ∧ rest = rest' := by
  have hsame : run = run' := by
    rw [← takeWhile_run hrun hstop, h, takeWhile_run hrun' hstop']
  subst hsame
  exact ⟨rfl, List.append_cancel_left h⟩

/-- Seen from its end, too, a text has one run that stops where the set does. -/
theorem run_unique_end {front front' : List Char} (h : front ++ run = front' ++ run')
    (hrun : ∀ c ∈ run, set c = true) (hrun' : ∀ c ∈ run', set c = true)
    (hstop : StopsAt set front.reverse) (hstop' : StopsAt set front'.reverse) :
    front = front' ∧ run = run' := by
  have hreverse : run.reverse ++ front.reverse = run'.reverse ++ front'.reverse := by
    rw [← List.reverse_append, h, List.reverse_append]
  obtain ⟨hruns, hfronts⟩ := run_unique hreverse (by simpa using hrun) (by simpa using hrun')
    hstop hstop'
  exact ⟨List.reverse_inj.mp hfronts, List.reverse_inj.mp hruns⟩

/-- The text before a place stops with what the place has before it. -/
theorem Place.Spans.stopsAt_reverse {p q : Place} {front : List Char} (h : p.Spans front q)
    (hstop : holds set q.prev = false) : StopsAt set front.reverse := by
  intro c hc
  rw [List.head?_reverse] at hc
  rw [h.prev_eq, hc] at hstop
  exact hstop

end Runs

/-! ## Ways through the parts -/

section Ways

variable {a b : Pattern} {p q : Progress}

theorem leads_append_iff : Leads (a ++ b) p q ↔ ∃ r, Leads a p r ∧ Leads b r q := by
  constructor
  · intro h
    cases h with
    | seq ha hb => exact ⟨_, ha, hb⟩
  · rintro ⟨r, ha, hb⟩
    exact .seq ha hb

theorem leads_orElse_iff : Leads (a <|> b) p q ↔ Leads a p q ∨ Leads b p q := by
  constructor
  · intro h
    cases h with
    | left ha => exact .inl ha
    | right hb => exact .inr hb
  · rintro (ha | hb)
    · exact .left ha
    · exact .right hb

theorem leads_empty_iff : Leads .empty p q ↔ q = p := by
  constructor
  · rintro ⟨⟩
    rfl
  · rintro rfl
    exact .empty q

theorem leads_optional_iff : Leads (optional a) p q ↔ Leads a p q ∨ q = p := by
  rw [← leads_empty_iff]
  exact leads_orElse_iff

theorem leads_boundary_iff : Leads .boundary p q ↔ p.place.atBoundary = true ∧ q = p := by
  constructor
  · intro h
    cases h with
    | boundary hb => exact ⟨hb, rfl⟩
  · rintro ⟨hb, rfl⟩
    exact .boundary hb

/-- A fixed character leads over itself. -/
theorem leads_mark_iff {c : Char} :
    Leads (.one (· == c)) p q ↔ p.place.Spans [c] q.place ∧ q.named = p.named := by
  constructor
  · intro h
    cases h with
    | one hspan hset =>
        obtain rfl := eq_of_beq hset
        exact ⟨hspan, rfl⟩
  · rintro ⟨hspan, hnamed⟩
    have hlead : Leads (.one (· == c)) p ⟨q.place, p.named⟩ := .one hspan (by simp)
    rwa [← hnamed] at hlead

theorem leads_run_iff {set : CharSet} {least : Nat} :
    Leads (.longest set least) p q ↔ ∃ run, p.place.Spans run q.place
      ∧ (∀ c ∈ run, set c = true) ∧ least ≤ run.length ∧ q.named = p.named := by
  constructor
  · intro h
    cases h with
    | longest hspan hset hleast => exact ⟨_, hspan, hset, hleast, rfl⟩
  · rintro ⟨run, hspan, hset, hleast, hnamed⟩
    have hlead : Leads (.longest set least) p ⟨q.place, p.named⟩ := .longest hspan hset hleast
    rwa [← hnamed] at hlead

/-- A named run gives its own stretch as the name. -/
theorem leads_namedRun_iff {set : CharSet} {least : Nat} :
    Leads (.naming (.longest set least)) p q ↔ ∃ run, p.place.Spans run q.place
      ∧ (∀ c ∈ run, set c = true) ∧ least ≤ run.length
      ∧ q.named = some (p.place, q.place) := by
  constructor
  · intro h
    cases h with
    | naming hinner =>
        obtain ⟨run, hspan, hset, hleast, -⟩ := leads_run_iff.mp hinner
        exact ⟨run, hspan, hset, hleast, rfl⟩
  · rintro ⟨run, hspan, hset, hleast, hnamed⟩
    have hinner : Leads (.longest set least) p ⟨q.place, p.named⟩ := .longest hspan hset hleast
    have hlead : Leads (.naming (.longest set least)) p ⟨q.place, some (p.place, q.place)⟩ :=
      @Leads.naming _ p ⟨q.place, p.named⟩ hinner
    rwa [← hnamed] at hlead

end Ways

/-! ## Characters passed over -/

/-- The pattern passes over characters of the set only. -/
def Within (set : CharSet) : Pattern → Prop
  | .empty => True
  | .one inner => ∀ c, inner c = true → set c = true
  | .longest inner _ => ∀ c, inner c = true → set c = true
  | .shortest inner => ∀ c, inner c = true → set c = true
  | .boundary => True
  | .seq a b => a.Within set ∧ b.Within set
  | .either a b => a.Within set ∧ b.Within set
  | .naming inner => inner.Within set

section Within

variable {set : CharSet} {a b : Pattern}

theorem within_append_iff : (a ++ b).Within set ↔ a.Within set ∧ b.Within set := Iff.rfl

theorem within_orElse_iff : (a <|> b).Within set ↔ a.Within set ∧ b.Within set := Iff.rfl

theorem within_optional_iff : (optional a).Within set ↔ a.Within set :=
  and_iff_left trivial

theorem within_text_iff {literal : String} :
    (text literal).Within set ↔ ∀ c ∈ literal.toList, set c = true := by
  rw [text]
  induction literal.toList with
  | nil => exact iff_of_true trivial (by simp)
  | cons c chars ih =>
      rw [List.foldr_cons, List.forall_mem_cons, ← ih]
      refine and_congr_left fun _ => ?_
      constructor
      · intro h
        exact h c (by simp)
      · intro h d hd
        obtain rfl := eq_of_beq hd
        exact h

theorem Leads.forall_mem {p q : Progress} (h : Leads a p q) (hwithin : a.Within set)
    {stretch : List Char} (hspan : p.place.Spans stretch q.place) :
    ∀ c ∈ stretch, set c = true := by
  have hsome : ∃ passed, p.place.Spans passed q.place ∧ ∀ c ∈ passed, set c = true := by
    clear hspan
    induction h with
    | empty p => exact ⟨[], .refl _, by simp⟩
    | one hone hset => exact ⟨_, hone, by simpa using hwithin _ hset⟩
    | longest hrun hset _ => exact ⟨_, hrun, fun c hc => hwithin c (hset c hc)⟩
    | shortest hrun hset => exact ⟨_, hrun, fun c hc => hwithin c (hset c hc)⟩
    | boundary _ => exact ⟨[], .refl _, by simp⟩
    | seq _ _ iha ihb =>
        obtain ⟨first, hfirst, hall⟩ := iha hwithin.1
        obtain ⟨second, hsecond, hall'⟩ := ihb hwithin.2
        exact ⟨first ++ second, hfirst.trans hsecond, List.forall_mem_append.mpr ⟨hall, hall'⟩⟩
    | left _ ih => exact ih hwithin.1
    | right _ ih => exact ih hwithin.2
    | naming _ ih => exact ih hwithin
  obtain ⟨passed, hpassed, hall⟩ := hsome
  obtain rfl : stretch = passed := hspan.upTo_eq.symm.trans hpassed.upTo_eq
  exact hall

end Within

end SnippetScope.Pattern
