/-
  SnippetScope.Complexity

  A coarse estimate of running time and memory from the number of loop
  keywords, the depth of braces and the number of variables of a snippet.
-/
import SnippetScope.Outline
import SnippetScope.Text.Search
import SnippetScope.Unicode.UpperCase

namespace SnippetScope

/-- Classes of running time, from fast to slow. -/
inductive TimeClass where
  | constant
  | linear
  | linearithmic
  | quadratic
  deriving DecidableEq, Repr

namespace TimeClass

/-- The usual notation of a class. -/
def label : TimeClass → String
  | constant => "O(1)"
  | linear => "O(n)"
  | linearithmic => "O(n log n)"
  | quadratic => "O(n²)"

/-- The place of a class in the order from fast to slow. -/
def rank : TimeClass → Nat
  | constant => 0
  | linear => 1
  | linearithmic => 2
  | quadratic => 3

end TimeClass

/-- Classes of memory use. -/
inductive SpaceClass where
  | constant
  | linear
  deriving DecidableEq, Repr

/-- The usual notation of a class. -/
def SpaceClass.label : SpaceClass → String
  | constant => "O(1)"
  | linear => "O(n)"

namespace Complexity

/-- The brace depth from which several loops count as nested. -/
def nestedDepth : Nat := 3

/-- The most variables that count as constant memory. -/
def maxConstantVariables : Nat := 5

/-- How often the loop keywords stand in a text, inside other words too. -/
def loopKeywords (text : List Char) : Nat :=
  Text.count "for".toList text + Text.count "while".toList text

/-- How a character changes the brace depth. -/
def braceStep (c : Char) : Int :=
  if c = '\x7b' then 1 else if c = '\x7d' then -1 else 0

/-- The greatest depth reached in a text that is entered at depth `depth`,
    when `reached` was the greatest so far. -/
def deepest (depth reached : Int) : List Char → Int
  | [] => reached
  | c :: rest =>
    let next := depth + braceStep c
    deepest next (max reached next) rest

/-- The greatest number of braces open at once.  Closing braces without an
    opening one make the depth negative, but never the answer. -/
def braceDepth (text : List Char) : Nat :=
  (deepest 0 0 text).toNat

/-- The time class for a number of loops at a brace depth. -/
def timeClass (loops depth : Nat) : TimeClass :=
  if loops = 0 then .constant
  else if loops = 1 then .linear
  else if nestedDepth ≤ depth then .quadratic
  else .linearithmic

/-- The space class for a number of variables. -/
def spaceClass (variableCount : Nat) : SpaceClass :=
  if variableCount ≤ maxConstantVariables then .constant else .linear

end Complexity

/-- The classes of a snippet and the counts they come from. -/
structure Estimate where
  time : TimeClass
  space : SpaceClass
  loops : Nat
  depth : Nat
  functions : Nat
  variableCount : Nat
  deriving DecidableEq, Repr

namespace Estimate

/-- The estimate for a text with its outline. -/
def ofText (text : String) (outline : Outline) : Estimate :=
  let loops := Complexity.loopKeywords text.toList
  let depth := Complexity.braceDepth text.toList
  let variableCount := outline.variableNames.length
  { time := Complexity.timeClass loops depth
    space := Complexity.spaceClass variableCount
    loops
    depth
    functions := outline.functions.length
    variableCount }

/-- A short summary, as shown below diagrams. -/
def summary (e : Estimate) (language : Language) (lines : Nat) : String :=
  "\n".intercalate [
    "CODE ANALYSIS SUMMARY",
    "Language: " ++ String.ofList (Unicode.upperCase language.displayName.toList),
    "Time Complexity: " ++ e.time.label,
    "Space Complexity: " ++ e.space.label,
    "Functions: " ++ toString e.functions,
    "Variables: " ++ toString e.variableCount,
    "Lines: " ++ toString lines]

/-- A longer account, as shown in reports. -/
def breakdown (e : Estimate) (lines : Nat) : String :=
  "\n".intercalate [
    "COMPLEXITY ANALYSIS:",
    "===================",
    "Time Complexity: " ++ e.time.label,
    "Space Complexity: " ++ e.space.label,
    "",
    "DETAILED BREAKDOWN:",
    "- Number of loops: " ++ toString e.loops,
    "- Maximum nesting level: " ++ toString e.depth,
    "- Functions defined: " ++ toString e.functions,
    "- Variables declared: " ++ toString e.variableCount,
    "- Lines of code: " ++ toString lines,
    "",
    "EXPLANATION:",
    "- The time complexity is estimated from loop keywords and brace nesting",
    "- Space complexity considers the number of declared variables"]

end Estimate

end SnippetScope
