/-
  SnippetScope.Proofs.Pattern.Leads

  What it means that a pattern can be matched, said without backtracking:
  the relation `Leads` between the progress before and after a pattern has one
  rule for each way to go on.  The main statements are that `tryMatch` only
  follows the relation (`exists_leads_of_tryMatch`) and that it fails only if
  the relation offers no way out (`isSome_tryMatch_of_leads`).
-/
import SnippetScope.Pattern.Starts
import Mathlib.Data.List.Basic

namespace SnippetScope.Pattern

/-! ## Stretches of text between places -/

/-- The stretch of text lies between two places. -/
structure Place.Spans (start : Place) (stretch : List Char) (stop : Place) : Prop where
  rest_eq : start.rest = stretch ++ stop.rest
  prev_eq : stop.prev = stretch.getLast?.or start.prev

namespace Place.Spans

variable {p q r : Place} {a b : List Char}

theorem refl (p : Place) : p.Spans [] p :=
  ⟨rfl, rfl⟩

theorem trans (h : p.Spans a q) (h' : q.Spans b r) : p.Spans (a ++ b) r := by
  refine ⟨?_, ?_⟩
  · rw [h.rest_eq, h'.rest_eq, List.append_assoc]
  · rw [h'.prev_eq, h.prev_eq, List.getLast?_append, Option.or_assoc]

/-- One character further on. -/
theorem single (prev : Option Char) (c : Char) (rest : List Char) :
    (⟨prev, c :: rest⟩ : Place).Spans [c] ⟨some c, rest⟩ :=
  ⟨rfl, rfl⟩

/-- A stretch in front of a text leads to the place behind it. -/
theorem append (prev : Option Char) (stretch rest : List Char) :
    (⟨prev, stretch ++ rest⟩ : Place).Spans stretch ⟨stretch.getLast?.or prev, rest⟩ :=
  ⟨rfl, rfl⟩

/-- A stretch in two parts has a place between them. -/
theorem split (h : p.Spans (a ++ b) r) : ∃ q : Place, p.Spans a q ∧ q.Spans b r := by
  refine ⟨⟨a.getLast?.or p.prev, b ++ r.rest⟩, ⟨?_, rfl⟩, rfl, ?_⟩
  · rw [h.rest_eq, List.append_assoc]
  · rw [h.prev_eq, List.getLast?_append, Option.or_assoc]

/-- A stretch that is not empty starts with the next character, and what is
    left of it lies behind that. -/
theorem of_cons {prev : Option Char} {c d : Char} {rest stretch : List Char}
    (h : (⟨prev, c :: rest⟩ : Place).Spans (d :: stretch) q) :
    d = c ∧ (⟨some c, rest⟩ : Place).Spans stretch q := by
  have hrest : c :: rest = d :: (stretch ++ q.rest) := h.rest_eq
  obtain ⟨rfl, rfl⟩ := List.cons.inj hrest
  refine ⟨rfl, rfl, ?_⟩
  rw [h.prev_eq, List.getLast?_cons]
  cases stretch.getLast? <;> rfl

/-- The stretch is what the matcher cuts out between the two places. -/
theorem upTo_eq (h : p.Spans a q) : p.upTo q = a := by
  have hlen : p.rest.length - q.rest.length = a.length := by
    rw [h.rest_eq, List.length_append]
    omega
  rw [Place.upTo, hlen, h.rest_eq, List.take_left']
  rfl

/-- The place behind a stretch is determined by the stretch. -/
theorem stop_eq (h : p.Spans a q) (h' : p.Spans a r) : q = r := by
  have hrest : q.rest = r.rest := List.append_cancel_left (h.rest_eq.symm.trans h'.rest_eq)
  have hprev : q.prev = r.prev := h.prev_eq.trans h'.prev_eq.symm
  cases q
  cases r
  simp_all

end Place.Spans

/-! ## The relation -/

/-- A way through the pattern leads from one progress to the other. -/
inductive Leads : Pattern → Progress → Progress → Prop where
  | empty (p : Progress) : Leads .empty p p
  | one {set : CharSet} {p : Progress} {q : Place} {c : Char}
      (hspan : p.place.Spans [c] q) (hset : set c = true) :
      Leads (.one set) p ⟨q, p.named⟩
  | longest {set : CharSet} {least : Nat} {p : Progress} {q : Place} {run : List Char}
      (hspan : p.place.Spans run q) (hset : ∀ c ∈ run, set c = true)
      (hleast : least ≤ run.length) :
      Leads (.longest set least) p ⟨q, p.named⟩
  | shortest {set : CharSet} {p : Progress} {q : Place} {run : List Char}
      (hspan : p.place.Spans run q) (hset : ∀ c ∈ run, set c = true) :
      Leads (.shortest set) p ⟨q, p.named⟩
  | boundary {p : Progress} (h : p.place.atBoundary = true) : Leads .boundary p p
  | seq {a b : Pattern} {p q r : Progress} (ha : Leads a p q) (hb : Leads b q r) :
      Leads (.seq a b) p r
  | left {a b : Pattern} {p q : Progress} (h : Leads a p q) : Leads (.either a b) p q
  | right {a b : Pattern} {p q : Progress} (h : Leads b p q) : Leads (.either a b) p q
  | naming {a : Pattern} {p q : Progress} (h : Leads a p q) :
      Leads (.naming a) p ⟨q.place, some (p.place, q.place)⟩

/-- A way through a pattern passes over a stretch of the text. -/
theorem Leads.spans {pattern : Pattern} {p q : Progress} (h : Leads pattern p q) :
    ∃ stretch, p.place.Spans stretch q.place := by
  induction h with
  | empty p => exact ⟨[], .refl _⟩
  | one hspan _ => exact ⟨_, hspan⟩
  | longest hspan _ _ => exact ⟨_, hspan⟩
  | shortest hspan _ => exact ⟨_, hspan⟩
  | boundary _ => exact ⟨[], .refl _⟩
  | seq _ _ iha ihb =>
      obtain ⟨a, ha⟩ := iha
      obtain ⟨b, hb⟩ := ihb
      exact ⟨a ++ b, ha.trans hb⟩
  | left _ ih => exact ih
  | right _ ih => exact ih
  | naming _ ih => exact ih

/-! ## The matcher follows the relation -/

variable {α : Type}

theorem exists_run_of_tryLongest {set : CharSet} {next : Place → Option α} {found : α}
    {least : Nat} {prev : Option Char} {rest : List Char}
    (h : tryLongest set next least prev rest = some found) :
    ∃ run q, (⟨prev, rest⟩ : Place).Spans run q ∧ (∀ c ∈ run, set c = true)
      ∧ least ≤ run.length ∧ next q = some found := by
  induction rest generalizing least prev with
  | nil =>
      cases least with
      | zero => exact ⟨[], _, .refl _, by simp, by simp, by simpa [tryLongest] using h⟩
      | succ least => simp [tryLongest] at h
  | cons c rest ih =>
      -- A longer run starts with `c`; the run from the place behind it is known.
      have hlonger : ∀ {least' : Nat}, least ≤ least' + 1 → set c = true →
          tryLongest set next least' (some c) rest = some found →
          ∃ run q, (⟨prev, c :: rest⟩ : Place).Spans run q ∧ (∀ c ∈ run, set c = true)
            ∧ least ≤ run.length ∧ next q = some found := by
        intro least' hle hc h'
        obtain ⟨run, q, hspan, hrun, hlen, hq⟩ := ih h'
        refine ⟨c :: run, q, (Place.Spans.single prev c rest).trans hspan, ?_, ?_, hq⟩
        · simpa [hc] using hrun
        · simp only [List.length_cons]
          omega
      cases least with
      | zero =>
          simp only [tryLongest] at h
          split at h
          · rename_i hc
            cases hlong : tryLongest set next 0 (some c) rest with
            | some found' =>
                rw [hlong] at h
                exact hlonger (by omega) hc (hlong.trans h)
            | none =>
                rw [hlong] at h
                exact ⟨[], _, .refl _, by simp, by simp, h⟩
          · exact ⟨[], _, .refl _, by simp, by simp, h⟩
      | succ least =>
          simp only [tryLongest] at h
          split at h
          · rename_i hc
            exact hlonger (by omega) hc h
          · simp at h

theorem exists_run_of_tryShortest {set : CharSet} {next : Place → Option α} {found : α}
    {prev : Option Char} {rest : List Char} (h : tryShortest set next prev rest = some found) :
    ∃ run q, (⟨prev, rest⟩ : Place).Spans run q ∧ (∀ c ∈ run, set c = true)
      ∧ next q = some found := by
  induction rest generalizing prev with
  | nil => exact ⟨[], _, .refl _, by simp, by simpa [tryShortest] using h⟩
  | cons c rest ih =>
      simp only [tryShortest] at h
      cases hnext : next ⟨prev, c :: rest⟩ with
      | some found' =>
          rw [hnext] at h
          exact ⟨[], _, .refl _, by simp, hnext.trans h⟩
      | none =>
          -- The run goes on only if it could not end here.
          by_cases hc : set c = true
          · simp only [hnext, hc, if_true] at h
            obtain ⟨run, q, hspan, hrun, hq⟩ := ih h
            exact ⟨c :: run, q, (Place.Spans.single prev c rest).trans hspan,
              by simpa [hc] using hrun, hq⟩
          · simp [hnext, hc] at h

/-- Every answer of the matcher comes from a way through the pattern. -/
theorem exists_leads_of_tryMatch {pattern : Pattern} {p : Progress}
    {next : Progress → Option α} {found : α} (h : tryMatch pattern p next = some found) :
    ∃ q, Leads pattern p q ∧ next q = some found := by
  induction pattern generalizing p next with
  | empty => exact ⟨p, .empty p, h⟩
  | one set =>
      obtain ⟨⟨prev, rest⟩, n⟩ := p
      cases rest with
      | nil => simp [tryMatch] at h
      | cons c rest =>
          simp only [tryMatch] at h
          split at h
          · rename_i hc
            exact ⟨_, .one (.single prev c rest) hc, h⟩
          · simp at h
  | longest set least =>
      obtain ⟨run, q, hspan, hrun, hlen, hq⟩ := exists_run_of_tryLongest h
      exact ⟨_, .longest hspan hrun hlen, hq⟩
  | shortest set =>
      obtain ⟨run, q, hspan, hrun, hq⟩ := exists_run_of_tryShortest h
      exact ⟨_, .shortest hspan hrun, hq⟩
  | boundary =>
      simp only [tryMatch] at h
      split at h
      · rename_i hb
        exact ⟨p, .boundary hb, h⟩
      · simp at h
  | seq a b iha ihb =>
      -- The answer of the first pattern is the second one's, which is why `next` varies.
      obtain ⟨q, ha, hq⟩ := iha h
      obtain ⟨r, hb, hr⟩ := ihb hq
      exact ⟨r, .seq ha hb, hr⟩
  | either a b iha ihb =>
      simp only [tryMatch] at h
      cases ha : tryMatch a p next with
      | some found' =>
          rw [ha] at h
          obtain ⟨q, hlead, hq⟩ := iha (ha.trans h)
          exact ⟨q, .left hlead, hq⟩
      | none =>
          rw [ha] at h
          obtain ⟨q, hlead, hq⟩ := ihb h
          exact ⟨q, .right hlead, hq⟩
  | naming a iha =>
      obtain ⟨q, hlead, hq⟩ := iha h
      exact ⟨_, .naming hlead, hq⟩

/-! ## The matcher misses no way out -/

theorem isSome_tryLongest_of_spans {set : CharSet} {next : Place → Option α} {least : Nat}
    {prev : Option Char} {rest run : List Char} {q : Place}
    (hspan : (⟨prev, rest⟩ : Place).Spans run q) (hrun : ∀ c ∈ run, set c = true)
    (hlen : least ≤ run.length) (hnext : (next q).isSome = true) :
    (tryLongest set next least prev rest).isSome = true := by
  induction run generalizing least prev rest with
  | nil =>
      -- The empty run: `next` is tried here, if not before.
      obtain rfl : q = ⟨prev, rest⟩ := hspan.stop_eq (.refl _)
      obtain rfl : least = 0 := by simpa using hlen
      cases rest with
      | nil => simpa [tryLongest] using hnext
      | cons c rest =>
          simp only [tryLongest]
          split
          · cases tryLongest set next 0 (some c) rest with
            | some _ => rfl
            | none => exact hnext
          · exact hnext
  | cons c run ih =>
      obtain rfl : rest = c :: (run ++ q.rest) := hspan.rest_eq
      obtain ⟨-, hspan'⟩ := hspan.of_cons
      have hc : set c = true := hrun c List.mem_cons_self
      have hrun' : ∀ d ∈ run, set d = true := fun d hd => hrun d (List.mem_cons_of_mem _ hd)
      cases least with
      | zero =>
          have hlong : (tryLongest set next 0 (some c) (run ++ q.rest)).isSome = true :=
            ih hspan' hrun' (Nat.zero_le _)
          simp only [tryLongest, hc, if_true]
          cases htry : tryLongest set next 0 (some c) (run ++ q.rest) with
          | some _ => rfl
          | none => simp [htry] at hlong
      | succ least =>
          simp only [tryLongest, hc, if_true]
          exact ih hspan' hrun' (by simpa using hlen)

/-- A way through the pattern from which `next` succeeds lets the matcher
    succeed, on this way or on one that it prefers. -/
theorem isSome_tryMatch_of_leads {pattern : Pattern} {p q : Progress}
    {next : Progress → Option α} (h : Leads pattern p q) (hnext : (next q).isSome = true) :
    (tryMatch pattern p next).isSome = true := by
  induction h generalizing next with
  | empty p => exact hnext
  | @one set p q c hspan hset =>
      obtain ⟨⟨prev, rest⟩, n⟩ := p
      obtain ⟨prev', rest'⟩ := q
      obtain rfl : rest = c :: rest' := hspan.rest_eq
      obtain rfl : prev' = some c := hspan.prev_eq
      simpa [tryMatch, hset] using hnext
  | longest hspan hset hleast => exact isSome_tryLongest_of_spans hspan hset hleast hnext
  | shortest hspan hset =>
      rw [tryMatch, isSome_tryShortest]
      exact isSome_tryLongest_of_spans hspan hset (Nat.zero_le _) hnext
  | boundary hb => simpa [tryMatch, hb] using hnext
  | seq _ _ iha ihb => exact iha (ihb hnext)
  | @left a b p q _ ih =>
      have ha := ih hnext
      simp only [tryMatch]
      cases htry : tryMatch a p next with
      | some _ => rfl
      | none => simp [htry] at ha
  | @right a b p q _ ih =>
      simp only [tryMatch]
      cases tryMatch a p next with
      | some _ => rfl
      | none => exact ih hnext
  | naming _ ih => exact ih hnext

/-! ## Matches at a place -/

/-- A match at a place covers the stretch of a way through the pattern, and
    its name is the stretch that this way has named. -/
theorem exists_leads_of_matchAt {pattern : Pattern} {start : Place} {m : Match}
    (h : matchAt? pattern start = some m) :
    ∃ stop, Leads pattern ⟨start, none⟩ stop ∧ start.Spans m.text stop.place
      ∧ m.name = stop.named.map fun ends => ends.1.upTo ends.2 := by
  obtain ⟨stop, hlead, hm⟩ := exists_leads_of_tryMatch h
  obtain ⟨stretch, hspan⟩ := hlead.spans
  obtain rfl := Option.some.inj hm
  refine ⟨stop, hlead, ?_, rfl⟩
  rw [hspan.upTo_eq]
  exact hspan

/-- A place is matched exactly if some way leads through the pattern. -/
theorem isSome_matchAt_iff {pattern : Pattern} {start : Place} :
    (matchAt? pattern start).isSome = true ↔ ∃ stop, Leads pattern ⟨start, none⟩ stop := by
  constructor
  · intro h
    obtain ⟨m, hm⟩ := Option.isSome_iff_exists.mp h
    obtain ⟨stop, hlead, -, -⟩ := exists_leads_of_matchAt hm
    exact ⟨stop, hlead⟩
  · rintro ⟨stop, hlead⟩
    exact isSome_tryMatch_of_leads hlead rfl

/-- The text of a match stands at its place. -/
theorem text_prefix_of_matchAt {pattern : Pattern} {start : Place} {m : Match}
    (h : matchAt? pattern start = some m) : m.text <+: start.rest := by
  obtain ⟨stop, -, hspan, -⟩ := exists_leads_of_matchAt h
  exact ⟨stop.place.rest, hspan.rest_eq.symm⟩

/-! ## Runs that nothing holds back -/

/-- If it can be gone on from everywhere, the longest run is taken: it stops
    only at the end of the text or before a character outside the set. -/
theorem tryLongest_of_total {set : CharSet} {next : Place → Option α}
    (hnext : ∀ place, (next place).isSome = true) (prev : Option Char) (rest : List Char) :
    ∃ run q, (⟨prev, rest⟩ : Place).Spans run q ∧ (∀ c ∈ run, set c = true)
      ∧ (∀ c ∈ q.rest.head?, set c = false) ∧ tryLongest set next 0 prev rest = next q := by
  induction rest generalizing prev with
  | nil => exact ⟨[], _, .refl _, by simp, by simp, by rw [tryLongest]⟩
  | cons c rest ih =>
      by_cases hc : set c = true
      · obtain ⟨run, q, hspan, hrun, hstop, hq⟩ := ih (some c)
        refine ⟨c :: run, q, (Place.Spans.single prev c rest).trans hspan,
          by simpa [hc] using hrun, hstop, ?_⟩
        obtain ⟨found, hfound⟩ := Option.isSome_iff_exists.mp (hnext q)
        simp only [tryLongest, hc, if_true, hq, hfound]
      · exact ⟨[], _, .refl _, by simp, by simpa using hc, by simp [tryLongest, hc]⟩

/-- A match of a pattern that ends with a run reaches as far as that run can. -/
theorem exists_run_of_matchAt {a : Pattern} {set : CharSet} {start : Place} {m : Match}
    (h : matchAt? (.seq a (.longest set 0)) start = some m) :
    ∃ q run stop, Leads a ⟨start, none⟩ q ∧ q.place.Spans run stop ∧ (∀ c ∈ run, set c = true)
      ∧ (∀ c ∈ stop.rest.head?, set c = false) ∧ start.Spans m.text stop := by
  obtain ⟨q, hlead, hnext⟩ := exists_leads_of_tryMatch
    (show tryMatch a ⟨start, none⟩ (fun q => tryMatch (.longest set 0) q _) = some m from h)
  let next : Place → Option Match := fun place =>
    some ⟨start.upTo place, q.named.map fun ends => ends.1.upTo ends.2⟩
  obtain ⟨run, stop, hspan, hrun, hstop, hq⟩ :=
    tryLongest_of_total (fun _ => rfl : ∀ place, (next place).isSome = true)
      q.place.prev q.place.rest
  obtain ⟨front, hfront⟩ := hlead.spans
  have hall := hfront.trans hspan
  obtain rfl := Option.some.inj (hnext.symm.trans hq)
  refine ⟨q, run, stop, hlead, hspan, hrun, hstop, ?_⟩
  rw [hall.upTo_eq]
  exact hall

/-! ## Fixed texts -/

/-- A fixed text leads exactly over its own characters. -/
theorem leads_text_iff {literal : String} {p q : Progress} :
    Leads (text literal) p q ↔ p.place.Spans literal.toList q.place ∧ q.named = p.named := by
  rw [text]
  induction literal.toList generalizing p with
  | nil =>
      constructor
      · rintro ⟨⟩
        exact ⟨.refl _, rfl⟩
      · rintro ⟨hspan, hnamed⟩
        obtain rfl : q = p := by
          have := hspan.stop_eq (.refl _)
          cases p
          cases q
          simp_all
        exact .empty q
  | cons c chars ih =>
      constructor
      · intro h
        cases h with
        | seq ha hb =>
            cases ha with
            | one hspan hset =>
                obtain rfl := eq_of_beq hset
                obtain ⟨hspan', hnamed⟩ := ih.mp hb
                exact ⟨hspan.trans hspan', hnamed⟩
      · rintro ⟨hspan, hnamed⟩
        have hmid : p.place.Spans [c] ⟨some c, chars ++ q.place.rest⟩ := ⟨hspan.rest_eq, rfl⟩
        refine .seq (.one hmid (by simp)) (ih.mpr ⟨⟨rfl, ?_⟩, hnamed⟩)
        rw [hspan.prev_eq, List.getLast?_cons]
        cases chars.getLast? <;> rfl

end SnippetScope.Pattern
