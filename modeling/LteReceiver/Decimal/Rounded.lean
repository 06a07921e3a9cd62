import LteReceiver.Decimal.Binary

/-!
# Rounded decimals

The value of a number in single precision rounded to a fixed number of places or of significant
digits. The quotients are exact, so that a value is never rounded twice.
-/

namespace LteReceiver

/-- The quotient rounded to the nearest integer, to the even one of two. -/
def roundToEven (num den : Nat) : Nat :=
  let low := num / den
  let rest := 2 * (num % den)
  if rest < den ∨ (rest = den ∧ low % 2 = 0) then low else low + 1

namespace Binary

/-- A number in units of a decimal place, rounded to the nearest integer, to the larger one of
two. -/
def toPlaces (number : Binary) (places : Nat) : Int :=
  let (num, den) := quotient number.mantissa number.exponent places
  let signed : Int := if number.negative then -num else num
  Int.fdiv (2 * signed + den) (2 * den)

/-- The exponents of the powers of ten around the numbers in single precision, the largest first. -/
def magnitudes : List Int :=
  (List.range 100).map fun i : Nat => 50 - (i : Int)

/-- The exponent of the largest power of ten that is not above a number. -/
def magnitude (number : Binary) : Int :=
  let reached (exponent : Int) : Bool :=
    let (num, den) := quotient number.mantissa number.exponent (-exponent)
    den ≤ num
  (magnitudes.find? reached).getD 0

/-- The first significant digits of a number and the exponent of the first of them, rounded to the
nearest, to even digits of two. Zero has no significant digits. -/
def significant (number : Binary) (count : Nat) : Nat × Int :=
  let exponent := number.magnitude
  let (num, den) := quotient number.mantissa number.exponent (count - 1 - exponent)
  let digits := roundToEven num den
  if digits = Nat.pow 10 count then (Nat.pow 10 (count - 1), exponent + 1) else (digits, exponent)

end Binary

end LteReceiver
