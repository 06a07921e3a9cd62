import LteReceiver.Decimal.Shortest
import LteReceiver.Survey.Document.Basic

/-!
# Numbers of documents

A number is a scalar without quotes, written in one way only (`Document.ofNumber`): an integer of 64
bits in all its digits, and any other number as the shortest decimal of its value in double
precision.

## Value

The value is that of a quick reader. It keeps as many digits as 64 bits hold (`significant?`), and
then multiplies with or divides by powers of ten that double precision reaches (`scaled`). Each of
these steps rounds, so the last place of the value can be another one than that of the number that
is nearest.

## Termination

Dividing by the largest power of ten brings an exponent below the range closer to it, and `scaled`
ends by how far the exponent is below zero.
-/

namespace LteReceiver

namespace Decimal

/-- More digits behind an integer, as long as it stays within 64 bits, and the number of those left
over. -/
def absorb : Nat → List Char → Nat × Nat
  | n, [] => (n, 0)
  | n, c :: rest =>
    let next := 10 * n + (c.toNat - '0'.toNat)
    if next < UInt64.size then absorb next rest else (n, rest.length + 1)

/-- An unsigned decimal number with as many of its digits as 64 bits hold. -/
def significant? (chars : List Char) : Option Decimal := do
  let (whole, rest) := Scalar.spanDigits chars
  let (part, rest) := match rest with
    | '.' :: rest => Scalar.spanDigits rest
    | rest => ([], rest)
  let exponent ← Scalar.exponent? rest
  let (n, wholeLeft) := absorb 0 whole
  let (n, partLeft) := absorb n part
  return ⟨n, exponent + wholeLeft + partLeft - part.length⟩

/-- A power of ten. -/
def powerOfTen (n : Nat) : Float :=
  Float.ofScientific 1 false n

/-- The exponent of the largest power of ten in double precision. -/
def largestPower : Nat := 308

/-- A number times a power of ten. -/
def scaled (x : Float) (exponent : Int) : Float :=
  if x == 0 then x
  else if exponent < -largestPower then
    scaled (x / powerOfTen largestPower) (exponent + largestPower)
  else if exponent < 0 then x / powerOfTen exponent.natAbs
  else if exponent ≤ largestPower then x * powerOfTen exponent.natAbs
  else 1 / 0
termination_by exponent.natAbs
decreasing_by
  simp only [largestPower] at *
  omega

/-- The value of a decimal of 64 bits. -/
def value (decimal : Decimal) : Float :=
  scaled decimal.digits.toUInt64.toFloat decimal.exponent

end Decimal

namespace Document

/-- The point is written out from 1e-5 up to 1e16. -/
def numberRange : PointRange := ⟨16, 5⟩

/-- An unsigned number as it is written: in all its digits, if it is an integer that is kept. -/
def unsignedNumber (kept : Nat → Bool) (chars : List Char) : String :=
  if chars.all Char.isDigit ∧ (Scalar.digits? 10 chars).any kept then String.ofList chars
  else
    match (Decimal.significant? chars).bind fun decimal => Binary.ofFloat? decimal.value with
    | some number => ((number.shortest? .double).getD ⟨0, 0⟩).text numberRange
    | none => String.ofList chars

/-- The document of a number. Zero with a sign is no integer. -/
def ofNumber (text : String) : Document :=
  match text.toList with
  | '-' :: chars => ofPlain ("-" ++ unsignedNumber (fun n => 0 < n && n ≤ UInt64.size / 2) chars)
  | chars => ofPlain (unsignedNumber (· < UInt64.size) chars)

end Document

end LteReceiver
