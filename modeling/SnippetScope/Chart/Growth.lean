/-
  SnippetScope.Chart.Growth

  Common rates of growth and their curves over two logarithmic axes.
-/
import SnippetScope.Decimal.Tenths

namespace SnippetScope

/-- A rate of growth. -/
inductive Growth where
  | constant
  | logarithmic
  | linear
  | linearithmic
  | quadratic
  | exponential
  deriving DecidableEq, Repr

namespace Growth

/-- All rates, from slow to fast. -/
def all : List Growth := [constant, logarithmic, linear, linearithmic, quadratic, exponential]

/-- The usual notation of a rate. -/
def label : Growth → String
  | constant => "O(1)"
  | logarithmic => "O(log n)"
  | linear => "O(n)"
  | linearithmic => "O(n log n)"
  | quadratic => "O(n²)"
  | exponential => "O(2ⁿ)"

/-- The colour of a rate's curve. -/
def colour : Growth → String
  | constant => "#00C851"
  | logarithmic => "#33b5e5"
  | linear => "#ffbb33"
  | linearithmic => "#ff8800"
  | quadratic => "#ff4444"
  | exponential => "#aa66cc"

/-- The decimal logarithm of a rate at `n`. -/
def logarithm (growth : Growth) (n : Float) : Float :=
  match growth with
  | constant => 0
  | logarithmic => n.log2.log10
  | linear => n.log10
  | linearithmic => n.log10 + n.log2.log10
  | quadratic => 2 * n.log10
  | exponential => n * (2 : Float).log10

end Growth

namespace Chart

/-- The sides of the plot, in pixels. -/
def plotLeft : Nat := 90
def plotRight : Nat := 760
def plotTop : Nat := 90
def plotBottom : Nat := 570

/-- The decades shown on the axes: sizes from 10 to 10⁴, values from 1 to 10⁸. -/
def firstDecade : Nat := 1
def lastDecade : Nat := 4
def topDecade : Nat := 8

/-- The number of points of a curve that does not leave the plot. -/
def samples : Nat := 200

/-- The horizontal place of a size, given by its logarithm. -/
def curveX (logSize : Float) : Float :=
  plotLeft.toFloat
    + (logSize - firstDecade.toFloat) / (lastDecade - firstDecade).toFloat
      * (plotRight - plotLeft).toFloat

/-- The vertical place of a value, given by its logarithm. -/
def curveY (logValue : Float) : Float :=
  plotBottom.toFloat - logValue / topDecade.toFloat * (plotBottom - plotTop).toFloat

/-- The logarithm of the size at which the `i`-th point of a curve lies. -/
def sampleSize (i : Nat) : Float :=
  firstDecade.toFloat
    + (lastDecade - firstDecade).toFloat * i.toFloat / (samples - 1).toFloat

/-- The points of a curve from the `i`-th on, at most `left` of them.  A curve
    that leaves the plot ends at its upper side. -/
def pointsFrom (growth : Growth) : (i left : Nat) → List (Rat × Rat)
  | _, 0 => []
  | i, left + 1 =>
    let logSize := sampleSize i
    let logValue := growth.logarithm (Float.pow 10 logSize)
    let x := Decimal.ofFloat (curveX logSize)
    if logValue > topDecade.toFloat then [(x, plotTop)]
    else
      let shown := if logValue < 0 then 0 else logValue
      (x, Decimal.ofFloat (curveY shown)) :: pointsFrom growth (i + 1) left

/-- The points of a curve. -/
def points (growth : Growth) : List (Rat × Rat) :=
  pointsFrom growth 0 samples

end Chart

end SnippetScope
