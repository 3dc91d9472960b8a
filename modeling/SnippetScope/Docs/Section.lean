/-
  SnippetScope.Docs.Section

  The sections of a snippet's documentation.
-/

namespace SnippetScope.Docs

/-- A second-level section of the documentation. -/
inductive Section where
  | purpose
  | algorithm
  | functions
  | parameters
  | returnValues
  | complexity
  | usage
  | improvements
  deriving DecidableEq, Repr

namespace Section

/-- All sections in their order. -/
def all : List Section :=
  [purpose, algorithm, functions, parameters, returnValues, complexity, usage, improvements]

/-- The heading of a section. -/
def title : Section → String
  | purpose => "Purpose"
  | algorithm => "Algorithm"
  | functions => "Functions"
  | parameters => "Parameters"
  | returnValues => "Return Values"
  | complexity => "Complexity"
  | usage => "Usage"
  | improvements => "Improvements"

end Section

end SnippetScope.Docs
