/-
  SnippetScope.Decimal.Tenths

  Fractions written with one decimal place.
-/

namespace SnippetScope.Decimal

/-- The nearest integer; of two equally near ones the even one. -/
def roundEven (q : Rat) : Int :=
  let below := q.floor
  let excess := q - below
  if excess < 1 / 2 then below
  else if 1 / 2 < excess then below + 1
  else if below % 2 = 0 then below
  else below + 1

/-- The fraction with one decimal place, rounded to the nearest tenth. -/
def tenths (q : Rat) : String :=
  let n := roundEven (q * 10)
  (if n < 0 then "-" else "") ++ toString (n.natAbs / 10) ++ "." ++ toString (n.natAbs % 10)

/-- The fraction that a finite binary floating-point number denotes. -/
def ofFloat (value : Float) : Rat :=
  let bits : Nat := value.toBits.toNat
  let exponent : Nat := bits / Nat.pow 2 52 % 2048
  let fraction : Nat := bits % Nat.pow 2 52
  let size : Rat :=
    if exponent = 0 then mkRat (fraction : Nat) (Nat.pow 2 1074)
    else if exponent < 1075 then mkRat (fraction + Nat.pow 2 52 : Nat) (Nat.pow 2 (1075 - exponent))
    else (((fraction + Nat.pow 2 52) * Nat.pow 2 (exponent - 1075) : Nat) : Rat)
  if bits / Nat.pow 2 63 = 0 then size else -size

end SnippetScope.Decimal
