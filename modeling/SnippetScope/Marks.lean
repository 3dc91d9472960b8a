/-
  SnippetScope.Marks

  Marks on the places of a text.  A place that leads to a marked one is found
  for all places together, in one pass from the end of the text to its start,
  where trying each place by itself would look at the same stretch of text
  again and again.
-/

namespace SnippetScope

/-- One mark for each place of a text, the one after its last item included. -/
abbrev Marks := List Bool

namespace Marks

variable {α : Type}

/-- The places one item of the set before a marked place. -/
def beforeOne (set : α → Bool) : (rest : List α) → Marks → Marks
  | a :: rest, _ :: later => (set a && later.headD false) :: beforeOne set rest later
  | _, _ => [false]

/-- The places from which items of the set, or none, lead to a marked place. -/
def beforeRun (set : α → Bool) : (rest : List α) → Marks → Marks
  | a :: rest, marked :: later =>
    let found := beforeRun set rest later
    (marked || (set a && found.headD false)) :: found
  | _, marks => marks

/-- The places from which at least `least` items of the set lead to a marked
    place. -/
def beforeRunOf (set : α → Bool) (rest : List α) : (least : Nat) → Marks → Marks
  | 0, marks => beforeRun set rest marks
  | least + 1, marks => beforeOne set rest (beforeRunOf set rest least marks)

/-- The places that carry both marks. -/
def both (a b : Marks) : Marks := List.zipWith and a b

/-- The places that carry one of the marks. -/
def oneOf (a b : Marks) : Marks := List.zipWith or a b

end Marks

end SnippetScope
