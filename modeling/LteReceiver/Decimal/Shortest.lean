import LteReceiver.Decimal.Basic
import LteReceiver.Decimal.Binary

/-!
# The shortest decimal of a number

A number in some precision stands for all reals that round to it. Of the decimals among these, the
shortest is the one on the coarsest grid of multiples of a power of ten; of two on the same grid,
the nearer to the number.

If a point of a grid reads back as the number, so does one of the two that enclose the number. So
each grid is tried at these two points only, the coarsest first.
-/

namespace LteReceiver

namespace Binary

/-- The lower end of the reals that round to a number, its value and the upper end, as multiples of
a quarter of the last place. Below a power of two the numbers are twice as dense. -/
def quarters (precision : Precision) (number : Binary) : Nat × Nat × Nat :=
  let value := 4 * number.mantissa
  let dense := number.mantissa = Nat.pow 2 precision.fractionBits ∧
    precision.leastExponent < number.exponent
  (if dense then value - 1 else value - 2, value, value + 2)

/-- Whether a decimal reads back as a number: it lies between the ends, or on one of them if the
integer of the number is even. -/
def readsBack (precision : Precision) (number : Binary) (decimal : Decimal) : Bool :=
  let (low, _, high) := number.quarters precision
  let (num, den) := quotient decimal.digits (2 - number.exponent) decimal.exponent
  if number.mantissa % 2 = 0 then low * den ≤ num && num ≤ high * den
  else low * den < num && num < high * den

/-- The points of the grid of a power of ten that enclose a number, the nearer one first and of two
equally near ones the even one. Zero is left out. -/
def enclosing (number : Binary) (exponent : Int) : List Decimal :=
  let (num, den) := quotient number.mantissa number.exponent (-exponent)
  let below := num / den
  let rest := 2 * (num % den)
  let order := if rest < den ∨ (rest = den ∧ below % 2 = 0) then [below, below + 1]
    else [below + 1, below]
  (order.filter (0 < ·)).map (⟨·, exponent⟩)

/-- The powers of ten that can be the grid of a shortest decimal, the coarsest first. As ten is
above eight, their exponents go only a third as far as those of the powers of two. -/
def gridExponents (precision : Precision) : List Int :=
  let most := Nat.pow 2 (precision.exponentBits - 1) / 3
  let least := (-precision.leastExponent).toNat / 3
  (List.range (most + least + 1)).map fun i : Nat => (most : Int) - i

/-- The shortest decimal of a number, without its sign. Zero has none. -/
def shortest? (precision : Precision) (number : Binary) : Option Decimal :=
  if number.mantissa = 0 then none
  else (gridExponents precision).findSome? fun exponent =>
    (number.enclosing exponent).find? (number.readsBack precision)

end Binary

end LteReceiver
