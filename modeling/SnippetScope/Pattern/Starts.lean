/-
  SnippetScope.Pattern.Starts

  The places of a text where a pattern can be matched.  Each part of the
  pattern passes over the text once and marks the places from which it leads
  to a marked one.  The main statement is that in the end a place is marked
  exactly if a match starts there.
-/
import SnippetScope.Marks
import SnippetScope.Pattern

namespace SnippetScope.Pattern

open Marks (beforeOne beforeRun beforeRunOf)

/-- The marks of the places that satisfy a condition. -/
def marksOf (condition : Place → Bool) : (prev : Option Char) → (rest : List Char) → Marks
  | prev, [] => [condition ⟨prev, []⟩]
  | prev, c :: rest => condition ⟨prev, c :: rest⟩ :: marksOf condition (some c) rest

/-- The places from which the pattern leads to a marked place. -/
def before : Pattern → (prev : Option Char) → (rest : List Char) → Marks → Marks
  | .empty, _, _, marks => marks
  | .one set, _, rest, marks => beforeOne set rest marks
  | .longest set least, _, rest, marks => beforeRunOf set rest least marks
  | .shortest set, _, rest, marks => beforeRun set rest marks
  | .boundary, prev, rest, marks => .both (marksOf Place.atBoundary prev rest) marks
  | .seq a b, prev, rest, marks => before a prev rest (before b prev rest marks)
  | .either a b, prev, rest, marks => .oneOf (before a prev rest marks) (before b prev rest marks)
  | .naming a, prev, rest, marks => before a prev rest marks

/-- The places of a text where a match starts. -/
def starts (pattern : Pattern) (text : List Char) : Marks :=
  before pattern none text (marksOf (fun _ => true) none text)

/-! ## Marks and matches -/

theorem headD_marksOf (condition : Place → Bool) (prev : Option Char) (rest : List Char) :
    (marksOf condition prev rest).headD false = condition ⟨prev, rest⟩ := by
  cases rest <;> rfl

theorem both_marksOf (f g : Place → Bool) (prev : Option Char) (rest : List Char) :
    Marks.both (marksOf f prev rest) (marksOf g prev rest)
      = marksOf (fun place => f place && g place) prev rest := by
  induction rest generalizing prev with
  | nil => rfl
  | cons c rest ih => simp [marksOf, Marks.both, ← ih (some c)]

theorem oneOf_marksOf (f g : Place → Bool) (prev : Option Char) (rest : List Char) :
    Marks.oneOf (marksOf f prev rest) (marksOf g prev rest)
      = marksOf (fun place => f place || g place) prev rest := by
  induction rest generalizing prev with
  | nil => rfl
  | cons c rest ih => simp [marksOf, Marks.oneOf, ← ih (some c)]

variable {α : Type}

/-- Only whether the continuation succeeds counts for whether a run does. -/
theorem isSome_tryLongest_congr {β : Type} (set : CharSet) {f : Place → Option α}
    {g : Place → Option β} (h : ∀ place, (f place).isSome = (g place).isSome) (least : Nat)
    (prev : Option Char) (rest : List Char) :
    (tryLongest set f least prev rest).isSome = (tryLongest set g least prev rest).isSome := by
  induction rest generalizing least prev with
  | nil => cases least <;> simp [tryLongest, h]
  | cons c rest ih =>
    cases least with
    | zero =>
      have := ih 0 (some c)
      simp only [tryLongest]
      split
      · cases hf : tryLongest set f 0 (some c) rest <;>
          cases hg : tryLongest set g 0 (some c) rest <;> simp_all
      · exact h _
    | succ least =>
      simp only [tryLongest]
      split
      · exact ih least (some c)
      · rfl

theorem beforeOne_marksOf (set : CharSet) (f : Place → Bool) (prev : Option Char)
    (rest : List Char) :
    beforeOne set rest (marksOf f prev rest)
      = marksOf (fun place => match place.rest with
          | [] => false
          | c :: rest => set c && f ⟨some c, rest⟩) prev rest := by
  induction rest generalizing prev with
  | nil => rfl
  | cons c rest ih => simp only [marksOf, beforeOne, headD_marksOf, ih]

theorem beforeRun_marksOf (set : CharSet) (next : Place → Option α) (prev : Option Char)
    (rest : List Char) :
    beforeRun set rest (marksOf (fun place => (next place).isSome) prev rest)
      = marksOf (fun place => (tryLongest set next 0 place.prev place.rest).isSome) prev rest := by
  induction rest generalizing prev with
  | nil => rfl
  | cons c rest ih =>
    simp only [marksOf, beforeRun, headD_marksOf, ih, tryLongest]
    congr 1
    cases set c
    · simp
    · cases tryLongest set next 0 (some c) rest <;> simp

theorem isSome_tryShortest (set : CharSet) (next : Place → Option α) (prev : Option Char)
    (rest : List Char) :
    (tryShortest set next prev rest).isSome = (tryLongest set next 0 prev rest).isSome := by
  induction rest generalizing prev with
  | nil => rfl
  | cons c rest ih =>
    simp only [tryShortest, tryLongest]
    cases hn : next ⟨prev, c :: rest⟩ <;> cases hs : set c <;> simp [ih]
    · cases tryLongest set next 0 (some c) rest <;> rfl
    · cases tryLongest set next 0 (some c) rest <;> rfl

theorem beforeRunOf_marksOf (set : CharSet) (next : Place → Option α) (least : Nat)
    (prev : Option Char) (rest : List Char) :
    beforeRunOf set rest least (marksOf (fun place => (next place).isSome) prev rest)
      = marksOf (fun place => (tryLongest set next least place.prev place.rest).isSome)
          prev rest := by
  induction least with
  | zero => exact beforeRun_marksOf set next prev rest
  | succ least ih =>
    rw [beforeRunOf, ih, beforeOne_marksOf]
    congr 1
    funext place
    obtain ⟨prev, rest⟩ := place
    cases rest with
    | nil => rfl
    | cons c rest => cases hs : set c <;> simp [tryLongest, hs]

theorem isSome_tryShortest_congr {β : Type} (set : CharSet) {f : Place → Option α}
    {g : Place → Option β} (h : ∀ place, (f place).isSome = (g place).isSome)
    (prev : Option Char) (rest : List Char) :
    (tryShortest set f prev rest).isSome = (tryShortest set g prev rest).isSome := by
  rw [isSome_tryShortest, isSome_tryShortest, isSome_tryLongest_congr set h]

/-- Whether a pattern can be matched does not hang on the name found so far,
    as long as what follows does not. -/
theorem isSome_tryMatch_congr {β : Type} (pattern : Pattern) {f : Progress → Option α}
    {g : Progress → Option β}
    (h : ∀ place n m, (f ⟨place, n⟩).isSome = (g ⟨place, m⟩).isSome)
    (place : Place) (n m : Option (Place × Place)) :
    (tryMatch pattern ⟨place, n⟩ f).isSome = (tryMatch pattern ⟨place, m⟩ g).isSome := by
  induction pattern generalizing f g place n m with
  | empty => exact h place n m
  | one set =>
    obtain ⟨prev, rest⟩ := place
    cases rest with
    | nil => rfl
    | cons c rest =>
      simp only [tryMatch]
      split
      · exact h _ n m
      · rfl
  | longest set least => exact isSome_tryLongest_congr set (fun q => h q n m) least _ _
  | shortest set => exact isSome_tryShortest_congr set (fun q => h q n m) _ _
  | boundary =>
    simp only [tryMatch]
    split
    · exact h place n m
    · rfl
  | seq a b iha ihb => exact iha (fun q n' m' => ihb h q n' m') place n m
  | either a b iha ihb =>
    have ha := iha h place n m
    have hb := ihb h place n m
    simp only [tryMatch]
    cases hf : tryMatch a ⟨place, n⟩ f <;> cases hg : tryMatch a ⟨place, m⟩ g <;>
      simp_all
  | naming a iha =>
    rw [tryMatch, tryMatch]
    exact @iha (fun q => f ⟨q.place, some (place, q.place)⟩)
      (fun q => g ⟨q.place, some (place, q.place)⟩) (fun q _ _ => h q _ _) place n m

/-- The marks before a pattern, computed for all places at once, are those of
    the places from which it can be matched and gone on from. -/
theorem before_marksOf (pattern : Pattern) {next : Progress → Option α}
    (h : ∀ place n m, (next ⟨place, n⟩).isSome = (next ⟨place, m⟩).isSome)
    (prev : Option Char) (rest : List Char) :
    before pattern prev rest (marksOf (fun place => (next ⟨place, none⟩).isSome) prev rest)
      = marksOf (fun place => (tryMatch pattern ⟨place, none⟩ next).isSome) prev rest := by
  induction pattern generalizing next with
  | empty => rfl
  | one set =>
    rw [before, beforeOne_marksOf]
    congr 1
    funext place
    obtain ⟨_, rest⟩ := place
    cases rest with
    | nil => rfl
    | cons c rest => cases hs : set c <;> simp [tryMatch, hs]
  | longest set least =>
    exact beforeRunOf_marksOf set (fun place => next ⟨place, none⟩) least prev rest
  | shortest set =>
    rw [before, beforeRun_marksOf set (fun place => next ⟨place, none⟩)]
    congr 1
    funext place
    exact (isSome_tryShortest set (fun q => next ⟨q, none⟩) place.prev place.rest).symm
  | boundary =>
    rw [before, both_marksOf]
    congr 1
    funext place
    cases hb : place.atBoundary <;> simp [tryMatch, hb]
  | seq a b iha ihb =>
    have hb : ∀ place n m, (tryMatch b ⟨place, n⟩ next).isSome
        = (tryMatch b ⟨place, m⟩ next).isSome := isSome_tryMatch_congr b h
    rw [before, ihb h]
    exact @iha (fun q => tryMatch b q next) hb
  | either a b iha ihb =>
    rw [before, iha h, ihb h, oneOf_marksOf]
    congr 1
    funext place
    cases ha : tryMatch a ⟨place, none⟩ next <;> simp [tryMatch, ha]
  | naming a iha =>
    rw [before, iha h]
    congr 1
    funext place
    rw [tryMatch]
    exact @isSome_tryMatch_congr α α a next
      (fun q => next ⟨q.place, some (place, q.place)⟩) (fun q _ _ => h q _ _) place none none

/-- A place is marked exactly if a match starts there. -/
theorem starts_eq (pattern : Pattern) (text : List Char) :
    starts pattern text
      = marksOf (fun place => (matchAt? pattern place).isSome) none text := by
  have h := @before_marksOf Unit pattern (fun _ => some ()) (fun _ _ _ => rfl) none text
  refine h.trans (congrArg (marksOf · none text) (funext fun place => ?_))
  exact isSome_tryMatch_congr pattern (fun _ _ _ => rfl) place none none

end SnippetScope.Pattern
