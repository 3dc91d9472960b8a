/-
  SnippetScope.Unicode.CaseRun

  Case mappings between single characters, written as runs: every `step`-th
  code point from `first` to `last` is moved by one fixed distance.
-/

namespace SnippetScope.Unicode

/-- Code points `first`, `first + step`, … `last`, sent to `target`,
    `target + step`, … in order. -/
structure CaseRun where
  first : Nat
  last : Nat
  step : Nat
  target : Nat

/-- A run covers the code points of its progression and no others. -/
def CaseRun.covers (run : CaseRun) (code : Nat) : Bool :=
  run.first ≤ code && code ≤ run.last && (code - run.first) % run.step == 0

/-- The image of a code point that the run covers. -/
def CaseRun.apply (run : CaseRun) (code : Nat) : Nat :=
  run.target + (code - run.first)

/-- The image under the first run that covers the character; a character
    that no run covers is its own image. -/
def mapCase (runs : List CaseRun) (c : Char) : Char :=
  match runs.find? (·.covers c.toNat) with
  | some run => Char.ofNat (run.apply c.toNat)
  | none => c

end SnippetScope.Unicode
