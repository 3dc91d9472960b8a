/-
  SnippetScope.Proofs.Pattern.Names

  Where the name of a match comes from.  A way through a pattern sets the name
  only at a naming part, and what it sets there is a stretch that leads through
  that part and lies within the match (`exists_leads_of_name`).
-/
import SnippetScope.Proofs.Pattern.Cuts

namespace SnippetScope.Pattern

/-- The parts of a pattern whose text can give the name of a match. -/
def namings : Pattern → List Pattern
  | .seq a b => a.namings ++ b.namings
  | .either a b => a.namings ++ b.namings
  | .naming inner => [inner]
  | _ => []

/-! ## Naming parts of built patterns -/

section Building

variable (a b : Pattern) (set : CharSet) (least : Nat)

@[simp] theorem namings_one : (one set).namings = [] := rfl

@[simp] theorem namings_longest : (longest set least).namings = [] := rfl

@[simp] theorem namings_naming : (naming a).namings = [a] := rfl

@[simp] theorem namings_append : (a ++ b).namings = a.namings ++ b.namings := rfl

@[simp] theorem namings_orElse : (a <|> b).namings = a.namings ++ b.namings := rfl

@[simp] theorem namings_optional : (optional a).namings = a.namings :=
  List.append_nil _

@[simp] theorem namings_text (literal : String) : (text literal).namings = [] := by
  rw [text]
  induction literal.toList with
  | nil => rfl
  | cons c chars ih => exact ih

end Building

/-! ## Names of matches -/

/-- The place is the other one or comes before it in the text. -/
def Place.Before (p q : Place) : Prop :=
  ∃ stretch, p.Spans stretch q

theorem Place.Before.refl (p : Place) : p.Before p :=
  ⟨[], .refl p⟩

theorem Place.Before.trans {p q r : Place} (h : p.Before q) (h' : q.Before r) : p.Before r := by
  obtain ⟨a, ha⟩ := h
  obtain ⟨b, hb⟩ := h'
  exact ⟨a ++ b, ha.trans hb⟩

/-- On the way from `p` to `q` the stretch from `start` to `stop` leads through a
    naming part of the pattern, and it is the name at the end. -/
structure NamesBetween (pattern : Pattern) (p q start stop : Progress) : Prop where
  part : ∃ inner ∈ pattern.namings, Leads inner start stop
  named : q.named = some (start.place, stop.place)
  before : p.place.Before start.place
  behind : stop.place.Before q.place

/-- The name stays when more of the text is passed over in front of it or behind. -/
theorem NamesBetween.widen {a b : Pattern} {p q p' q' start stop : Progress}
    (h : NamesBetween a p q start stop) (hparts : a.namings ⊆ b.namings)
    (hp : p'.place.Before p.place) (hq : q.place.Before q'.place) (hnamed : q'.named = q.named) :
    NamesBetween b p' q' start stop where
  part := by
    obtain ⟨inner, hinner, hlead⟩ := h.part
    exact ⟨inner, hparts hinner, hlead⟩
  named := hnamed.trans h.named
  before := hp.trans h.before
  behind := h.behind.trans hq

/-- A way through a pattern leaves the name as it was, or names a stretch between its
    ends. -/
theorem Leads.named {pattern : Pattern} {p q : Progress} (h : Leads pattern p q) :
    q.named = p.named ∨ ∃ start stop, NamesBetween pattern p q start stop := by
  induction h with
  | empty p => exact .inl rfl
  | one _ _ => exact .inl rfl
  | longest _ _ _ => exact .inl rfl
  | shortest _ _ => exact .inl rfl
  | boundary _ => exact .inl rfl
  | seq ha hb iha ihb =>
      -- A name given later replaces an earlier one.
      rcases ihb with hkept | ⟨start, stop, hnames⟩
      · rcases iha with ha' | ⟨start, stop, hnames⟩
        · exact .inl (hkept.trans ha')
        · exact .inr ⟨start, stop,
            hnames.widen (List.subset_append_left _ _) (.refl _) hb.spans hkept⟩
      · exact .inr ⟨start, stop,
          hnames.widen (List.subset_append_right _ _) ha.spans (.refl _) rfl⟩
  | left _ ih =>
      rcases ih with h | ⟨start, stop, hnames⟩
      · exact .inl h
      · exact .inr ⟨start, stop,
          hnames.widen (List.subset_append_left _ _) (.refl _) (.refl _) rfl⟩
  | right _ ih =>
      rcases ih with h | ⟨start, stop, hnames⟩
      · exact .inl h
      · exact .inr ⟨start, stop,
          hnames.widen (List.subset_append_right _ _) (.refl _) (.refl _) rfl⟩
  | @naming a p q hlead _ =>
      refine .inr ⟨p, q, ⟨a, List.mem_singleton_self a, hlead⟩, rfl, .refl _, ?_⟩
      exact Place.Before.refl q.place

/-- The name of a match is a part of its text, and a stretch that leads through a
    naming part of the pattern. -/
theorem exists_leads_of_name {pattern : Pattern} {start : Place} {m : Match} {name : List Char}
    (h : matchAt? pattern start = some m) (hname : m.name = some name) :
    name <:+: m.text ∧ ∃ inner ∈ pattern.namings, ∃ p q : Progress,
      Leads inner p q ∧ p.place.Spans name q.place := by
  obtain ⟨stop, hlead, hall, hm⟩ := exists_leads_of_matchAt h
  rw [hname] at hm
  rcases hlead.named with hnone | ⟨p, q, hnames⟩
  · rw [hnone] at hm
    cases hm
  · obtain ⟨inner, hinner, hpart⟩ := hnames.part
    obtain ⟨stretch, hspan⟩ := hpart.spans
    rw [hnames.named] at hm
    obtain rfl : name = p.place.upTo q.place := Option.some.inj hm
    rw [hspan.upTo_eq]
    refine ⟨?_, inner, hinner, p, q, hpart, hspan⟩
    -- What is passed over before, in and behind the name makes up the whole match.
    obtain ⟨before, hbefore⟩ := hnames.before
    obtain ⟨behind, hbehind⟩ := hnames.behind
    have htext : m.text = before ++ stretch ++ behind :=
      hall.upTo_eq.symm.trans ((hbefore.trans hspan).trans hbehind).upTo_eq
    exact ⟨before, behind, htext.symm⟩

/-- A name found in a text is a part of it. -/
theorem name_infix_of_mem_findAll {pattern : Pattern} {text name : List Char} {m : Match}
    (hm : m ∈ findAll pattern text) (hname : m.name = some name) : name <:+: text := by
  obtain ⟨stretch, start, hspan, hmatch, -⟩ := (cuts_pieces pattern text).matchAt_of_mem_found hm
  have hin : name <:+: m.text := (exists_leads_of_name hmatch hname).1
  have hbehind : start.rest <:+ text := ⟨stretch, hspan.rest_eq.symm⟩
  exact (hin.trans (text_prefix_of_matchAt hmatch).isInfix).trans hbehind.isInfix

/-- A run that a pattern takes consists of characters of its set. -/
theorem run_of_leads {set : CharSet} {least : Nat} {p q : Progress} {run : List Char}
    (h : Leads (.longest set least) p q) (hspan : p.place.Spans run q.place) :
    least ≤ run.length ∧ ∀ c ∈ run, set c = true := by
  cases h with
  | @longest _ _ _ _ run' hspan' hset hleast =>
      obtain rfl : run = run' := hspan.upTo_eq.symm.trans hspan'.upTo_eq
      exact ⟨hleast, hset⟩

end SnippetScope.Pattern
