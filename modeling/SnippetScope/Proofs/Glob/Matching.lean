/-
  SnippetScope.Proofs.Glob.Matching

  What patterns of paths stand for.  `Spells` and `Matches` say it rule by rule;
  matching by marks decides just that (`matchesPath_iff`).  Marks are
  described by the condition that the rest of the input satisfies at each
  marked place (`Marked`): a part of a pattern turns marks for what follows it
  into marks for itself and what follows (`marked_before`).
-/
import SnippetScope.Glob

namespace SnippetScope.Glob

open Marks (beforeOne beforeRun)

/-! ## What patterns stand for -/

mutual

/-- The token stands for the bytes. -/
inductive Spells : Token → List UInt8 → Prop where
  | literal (c : Char) : Spells (.literal c) (String.utf8EncodeChar c)
  | anyByte (b : UInt8) : Spells .anyByte [b]
  | anyText (bytes : List UInt8) : Spells .anyText bytes
  | noLeadingDirs : Spells .leadingDirs []
  | leadingDirs (dirs : List UInt8) : Spells .leadingDirs (dirs ++ [slash])
  | everythingBelow (bytes : List UInt8) : Spells .everythingBelow (slash :: bytes)
  | noInnerDirs : Spells .innerDirs [slash]
  | innerDirs (dirs : List UInt8) : Spells .innerDirs (slash :: (dirs ++ [slash]))
  | byteClass {negated : Bool} {ranges : List (Char × Char)} {b : UInt8}
      (h : inByteRanges ranges b ≠ negated) : Spells (.byteClass negated ranges) [b]
  /-- A choice whose branches ask for nothing stands for no bytes. -/
  | voidChoice {branches : List (List Token)} (h : allVoid branches = true) :
      Spells (.choice branches) []
  /-- Any other choice stands for what its branches stand for, void ones left out. -/
  | choice {branches : List (List Token)} {branch : List Token} {bytes : List UInt8}
      (hmem : branch ∈ branches) (hvoid : isVoidAll branch = false) (h : Matches branch bytes) :
      Spells (.choice branches) bytes

/-- The tokens stand for the bytes, one token after the other. -/
inductive Matches : List Token → List UInt8 → Prop where
  | nil : Matches [] []
  | cons {t : Token} {rest : List Token} {bytes later : List UInt8} (h : Spells t bytes)
      (hrest : Matches rest later) : Matches (t :: rest) (bytes ++ later)

end

theorem matches_nil_iff {bytes : List UInt8} : Matches [] bytes ↔ bytes = [] := by
  constructor
  · rintro ⟨⟩
    rfl
  · rintro rfl
    exact .nil

theorem matches_cons_iff {t : Token} {rest : List Token} {bytes : List UInt8} :
    Matches (t :: rest) bytes ↔
      ∃ first later, bytes = first ++ later ∧ Spells t first ∧ Matches rest later := by
  constructor
  · rintro (_ | ⟨h, hrest⟩)
    exact ⟨_, _, rfl, h, hrest⟩
  · rintro ⟨first, later, rfl, h, hrest⟩
    exact .cons h hrest

theorem isVoidAll_of_allVoid {branches : List (List Token)} (h : allVoid branches = true)
    {branch : List Token} (hmem : branch ∈ branches) : isVoidAll branch = true := by
  induction branches with
  | nil => cases hmem
  | cons first branches ih =>
      rw [allVoid, Bool.and_eq_true] at h
      rcases List.mem_cons.mp hmem with rfl | hmem
      · exact h.1
      · exact ih h.2 hmem

/-! ## Marks -/

section Marks

variable {α : Type}

/-- The marked places of the input are those where the rest of it satisfies the
    condition. -/
inductive Marked (condition : List α → Prop) : (input : List α) → Marks → Prop where
  | nil {mark : Bool} (h : mark = true ↔ condition []) : Marked condition [] [mark]
  | cons {a : α} {rest : List α} {mark : Bool} {later : Marks}
      (h : mark = true ↔ condition (a :: rest)) (hlater : Marked condition rest later) :
      Marked condition (a :: rest) (mark :: later)

/-- The rest of an input goes on with something wanted, and the condition holds
    behind it. -/
def Then (wanted condition : List α → Prop) (rest : List α) : Prop :=
  ∃ first after, rest = first ++ after ∧ wanted first ∧ condition after

variable {condition condition' : List α → Prop} {input rest : List α} {marks marks' : Marks}

theorem then_nil_iff : Then (· = []) condition rest ↔ condition rest := by
  constructor
  · rintro ⟨_, after, rfl, rfl, hafter⟩
    exact hafter
  · intro h
    exact ⟨[], rest, rfl, rfl, h⟩

theorem Marked.headD_iff (h : Marked condition input marks) :
    marks.headD false = true ↔ condition input := by
  cases h with
  | nil h => exact h
  | cons h _ => exact h

theorem Marked.congr (h : Marked condition input marks)
    (hiff : ∀ rest, condition rest ↔ condition' rest) : Marked condition' input marks := by
  induction h with
  | nil h => exact .nil (h.trans (hiff _))
  | cons h _ ih => exact .cons (h.trans (hiff _)) ih

theorem Marked.beforeOne (set : α → Bool) (h : Marked condition input marks) :
    Marked (Then (fun first => ∃ a, first = [a] ∧ set a = true) condition) input
      (beforeOne set input marks) := by
  induction h with
  | nil h =>
      refine .nil ⟨fun hfalse => by simp at hfalse, ?_⟩
      rintro ⟨_, after, heq, ⟨a, rfl, -⟩, -⟩
      simp at heq
  | @cons a rest mark later h hlater ih =>
      refine .cons ?_ ih
      rw [Bool.and_eq_true, hlater.headD_iff]
      constructor
      · rintro ⟨ha, hrest⟩
        exact ⟨[a], rest, rfl, ⟨a, rfl, ha⟩, hrest⟩
      · rintro ⟨_, after, heq, ⟨b, rfl, hb⟩, hafter⟩
        obtain ⟨rfl, rfl⟩ := List.cons.inj heq
        exact ⟨hb, hafter⟩

theorem Marked.beforeRun (set : α → Bool) (h : Marked condition input marks) :
    Marked (Then (fun first => ∀ a ∈ first, set a = true) condition) input
      (beforeRun set input marks) := by
  induction h with
  | nil h =>
      refine .nil (h.trans ⟨fun h => ⟨[], [], rfl, by simp, h⟩, ?_⟩)
      rintro ⟨first, after, heq, -, hafter⟩
      obtain ⟨rfl, rfl⟩ := List.append_eq_nil_iff.mp heq.symm
      exact hafter
  | @cons a rest mark later h hlater ih =>
      refine .cons ?_ ih
      rw [Bool.or_eq_true, Bool.and_eq_true, h, ih.headD_iff]
      -- The run is empty, or the first item belongs to it.
      constructor
      · rintro (hrest | ⟨ha, first, after, rfl, hfirst, hafter⟩)
        · exact ⟨[], a :: rest, rfl, by simp, hrest⟩
        · exact ⟨a :: first, after, rfl, List.forall_mem_cons.mpr ⟨ha, hfirst⟩, hafter⟩
      · rintro ⟨first, after, heq, hfirst, hafter⟩
        cases first with
        | nil =>
            rw [List.nil_append] at heq
            exact .inl (heq ▸ hafter)
        | cons b first =>
            obtain ⟨rfl, rfl⟩ := List.cons.inj heq
            obtain ⟨ha, hfirst⟩ := List.forall_mem_cons.mp hfirst
            exact .inr ⟨ha, first, after, rfl, hfirst, hafter⟩

theorem Marked.oneOf (h : Marked condition input marks) (h' : Marked condition' input marks') :
    Marked (fun rest => condition rest ∨ condition' rest) input (Marks.oneOf marks marks') := by
  induction h generalizing marks' with
  | nil h =>
      cases h' with
      | nil h' => exact .nil (by rw [Bool.or_eq_true, h, h'])
  | cons h _ ih =>
      cases h' with
      | cons h' hlater' => exact .cons (by rw [Bool.or_eq_true, h, h']) (ih hlater')

theorem Marked.unmark (h : Marked condition input marks) :
    Marked (fun _ => False) input (marks.map fun _ => false) := by
  induction h with
  | nil _ => exact .nil (by simp)
  | cons _ _ ih => exact .cons (by simp) ih

end Marks

theorem marked_atEnd (input : List UInt8) : Marked (· = []) input (atEnd input) := by
  induction input with
  | nil => exact .nil (by simp)
  | cons b rest ih => exact .cons (by simp) ih

/-! ## Tokens -/

variable {condition : List UInt8 → Prop} {input : List UInt8} {marks : Marks}

/-- A fixed sequence of bytes before a marked place. -/
theorem Marked.beforeBytes (bytes : List UInt8) (h : Marked condition input marks) :
    Marked (Then (· = bytes) condition) input
      (bytes.foldr (fun b later => Marks.beforeOne (· == b) input later) marks) := by
  induction bytes with
  | nil => exact h.congr fun rest => then_nil_iff.symm
  | cons b bytes ih =>
      refine (ih.beforeOne (· == b)).congr fun rest => ?_
      constructor
      · rintro ⟨_, _, rfl, ⟨c, rfl, hc⟩, first, after, rfl, hfirst, hafter⟩
        rw [beq_iff_eq] at hc
        exact ⟨b :: bytes, after, by rw [hc, hfirst]; rfl, rfl, hafter⟩
      · rintro ⟨_, after, rfl, rfl, hafter⟩
        exact ⟨[b], bytes ++ after, rfl, ⟨b, rfl, beq_self_eq_true b⟩, bytes, after, rfl, rfl,
          hafter⟩

theorem Marked.beforeDirs (h : Marked condition input marks) :
    Marked (Then (Spells .leadingDirs) condition) input (beforeDirs input marks) := by
  refine (h.oneOf ((h.beforeOne (· == slash)).beforeRun fun _ => true)).congr fun rest => ?_
  constructor
  · rintro (hrest | ⟨dirs, _, rfl, -, _, after, rfl, ⟨b, rfl, hb⟩, hafter⟩)
    · exact ⟨[], rest, rfl, .noLeadingDirs, hrest⟩
    · rw [beq_iff_eq] at hb
      exact ⟨dirs ++ [slash], after, by rw [hb, List.append_assoc], .leadingDirs dirs, hafter⟩
  · rintro ⟨_, after, rfl, _ | _ | _ | _ | ⟨dirs⟩, hafter⟩
    · exact .inl hafter
    · exact .inr ⟨dirs, slash :: after, by simp, by simp, [slash], after, rfl, ⟨slash, rfl, rfl⟩,
        hafter⟩

mutual

theorem marked_before (t : Token) {condition : List UInt8 → Prop} {marks : Marks}
    (h : Marked condition input marks) :
    Marked (Then (Spells t) condition) input (t.before input marks) := by
  cases t with
  | literal c =>
      refine (h.beforeBytes (String.utf8EncodeChar c)).congr fun rest => ?_
      constructor
      · rintro ⟨_, after, rfl, rfl, hafter⟩
        exact ⟨_, after, rfl, .literal c, hafter⟩
      · rintro ⟨_, after, rfl, ⟨⟩, hafter⟩
        exact ⟨_, after, rfl, rfl, hafter⟩
  | anyByte =>
      refine (h.beforeOne fun _ => true).congr fun rest => ?_
      constructor
      · rintro ⟨_, after, rfl, ⟨b, rfl, -⟩, hafter⟩
        exact ⟨[b], after, rfl, .anyByte b, hafter⟩
      · rintro ⟨_, after, rfl, _ | ⟨b⟩, hafter⟩
        exact ⟨[b], after, rfl, ⟨b, rfl, rfl⟩, hafter⟩
  | anyText =>
      refine (h.beforeRun fun _ => true).congr fun rest => ?_
      constructor
      · rintro ⟨bytes, after, rfl, -, hafter⟩
        exact ⟨bytes, after, rfl, .anyText bytes, hafter⟩
      · rintro ⟨bytes, after, rfl, -, hafter⟩
        exact ⟨bytes, after, rfl, by simp, hafter⟩
  | leadingDirs => exact h.beforeDirs
  | everythingBelow =>
      refine ((h.beforeRun fun _ => true).beforeOne (· == slash)).congr fun rest => ?_
      constructor
      · rintro ⟨_, _, rfl, ⟨b, rfl, hb⟩, bytes, after, rfl, -, hafter⟩
        rw [beq_iff_eq] at hb
        exact ⟨slash :: bytes, after, by rw [hb]; rfl, .everythingBelow bytes, hafter⟩
      · rintro ⟨_, after, rfl, _ | _ | _ | _ | _ | ⟨bytes⟩, hafter⟩
        exact ⟨[slash], bytes ++ after, rfl, ⟨slash, rfl, rfl⟩, bytes, after, rfl, by simp, hafter⟩
  | innerDirs =>
      refine (h.beforeDirs.beforeOne (· == slash)).congr fun rest => ?_
      constructor
      · rintro ⟨_, _, rfl, ⟨b, rfl, hb⟩, dirs, after, rfl, hdirs, hafter⟩
        rw [beq_iff_eq] at hb
        subst hb
        refine ⟨slash :: dirs, after, rfl, ?_, hafter⟩
        cases hdirs with
        | noLeadingDirs => exact .noInnerDirs
        | leadingDirs dirs => exact .innerDirs dirs
      · rintro ⟨bytes, after, rfl, hbytes, hafter⟩
        refine ⟨[slash], bytes.tail ++ after, ?_, ⟨slash, rfl, rfl⟩, bytes.tail, after, rfl, ?_,
          hafter⟩
        · cases hbytes <;> rfl
        · cases hbytes with
          | noInnerDirs => exact .noLeadingDirs
          | innerDirs dirs => exact .leadingDirs dirs
  | byteClass negated ranges =>
      refine (h.beforeOne fun b => inByteRanges ranges b != negated).congr fun rest => ?_
      constructor
      · rintro ⟨_, after, rfl, ⟨b, rfl, hb⟩, hafter⟩
        exact ⟨[b], after, rfl, .byteClass (bne_iff_ne.mp hb), hafter⟩
      · rintro ⟨bytes, after, rfl, hbytes, hafter⟩
        cases hbytes with
        | byteClass hb => exact ⟨_, after, rfl, ⟨_, rfl, bne_iff_ne.mpr hb⟩, hafter⟩
  | choice branches =>
      rw [Token.before]
      split
      · rename_i hvoid
        refine h.congr fun rest => ⟨fun hrest => ⟨[], rest, rfl, .voidChoice hvoid, hrest⟩, ?_⟩
        rintro ⟨bytes, after, rfl, hbytes, hafter⟩
        cases hbytes with
        | voidChoice _ => exact hafter
        | choice hmem hbranch _ =>
            rw [isVoidAll_of_allVoid hvoid hmem] at hbranch
            cases hbranch
      · rename_i hvoid
        refine (marked_beforeSome branches h).congr fun rest => ?_
        constructor
        · rintro ⟨bytes, after, rfl, ⟨branch, hmem, hbranch, hbytes⟩, hafter⟩
          exact ⟨bytes, after, rfl, .choice hmem hbranch hbytes, hafter⟩
        · rintro ⟨bytes, after, rfl, hbytes, hafter⟩
          cases hbytes with
          | voidChoice hvoid' => exact absurd hvoid' hvoid
          | choice hmem hbranch hbytes =>
              exact ⟨bytes, after, rfl, ⟨_, hmem, hbranch, hbytes⟩, hafter⟩

theorem marked_beforeAll (tokens : List Token) {condition : List UInt8 → Prop} {marks : Marks}
    (h : Marked condition input marks) :
    Marked (Then (Matches tokens) condition) input (beforeAll input marks tokens) := by
  cases tokens with
  | nil =>
      have hnil : Matches [] = (· = []) := funext fun _ => propext matches_nil_iff
      rw [hnil]
      exact h.congr fun rest => then_nil_iff.symm
  | cons t tokens =>
      refine (marked_before t (marked_beforeAll tokens h)).congr fun rest => ?_
      constructor
      · rintro ⟨first, _, rfl, hfirst, later, after, rfl, hlater, hafter⟩
        exact ⟨first ++ later, after, (List.append_assoc ..).symm, .cons hfirst hlater, hafter⟩
      · rintro ⟨bytes, after, rfl, hbytes, hafter⟩
        obtain ⟨first, later, rfl, hfirst, hlater⟩ := matches_cons_iff.mp hbytes
        exact ⟨first, later ++ after, List.append_assoc .., hfirst, later, after, rfl, hlater,
          hafter⟩

theorem marked_beforeSome (branches : List (List Token)) {condition : List UInt8 → Prop}
    {marks : Marks} (h : Marked condition input marks) :
    Marked (Then (fun bytes => ∃ branch ∈ branches, isVoidAll branch = false
      ∧ Matches branch bytes) condition) input (beforeSome input marks branches) := by
  cases branches with
  | nil => exact h.unmark.congr fun rest => by simp [Then]
  | cons branch branches =>
      rw [beforeSome]
      split
      · rename_i hvoid
        refine (marked_beforeSome branches h).congr fun rest => ?_
        simp only [List.mem_cons, or_and_right, exists_or, exists_eq_left, hvoid,
          Bool.true_eq_false, false_and, false_or]
      · rename_i hvoid
        rw [Bool.not_eq_true] at hvoid
        refine ((marked_beforeAll branch h).oneOf (marked_beforeSome branches h)).congr
          fun rest => ?_
        simp only [Then, List.mem_cons, or_and_right, and_or_left, exists_or, exists_eq_left, hvoid,
          true_and]

end

/-! ## Patterns -/

/-- The pattern stands for the whole path.  Two stars alone stand for
    everything. -/
def StandsFor (tokens : Tokens) (path : String) : Prop :=
  tokens = [.leadingDirs] ∨ Matches tokens (utf8Bytes path.toList)

/-- The marks decide whether the tokens stand for the whole of the bytes. -/
theorem matchesBytes_iff {tokens : Tokens} :
    matchesBytes tokens input = true ↔ tokens = [.leadingDirs] ∨ Matches tokens input := by
  have hmarks : (beforeAll input (atEnd input) tokens).headD false = true ↔
      Matches tokens input := by
    rw [(marked_beforeAll tokens (marked_atEnd input)).headD_iff]
    simp [Then]
  by_cases hall : tokens = [.leadingDirs]
  · subst hall
    simp [matchesBytes]
  · rw [matchesBytes, hmarks]
    · simp [hall]
    · exact hall

theorem matchesPath_iff {tokens : Tokens} {path : String} :
    matchesPath tokens path = true ↔ StandsFor tokens path :=
  matchesBytes_iff

end SnippetScope.Glob
