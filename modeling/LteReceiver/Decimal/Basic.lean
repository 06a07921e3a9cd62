/-!
# Decimals

A decimal is an integer times a power of ten. Its text has a point behind the first digit and an
exponent, except in a range of magnitudes in which the point is written out (`PointRange`).
-/

namespace LteReceiver

/-- An integer times a power of ten. -/
structure Decimal where
  digits : Nat
  exponent : Int
deriving DecidableEq, Repr

/-- The decimals whose point is written out. The others have an exponent, which always has a
sign. -/
structure PointRange where
  /-- The most places in front of the point. -/
  places : Int
  /-- The least count of zeros behind the point that is not written out. -/
  zeros : Int
deriving DecidableEq, Repr

namespace Decimal

/-- A decimal without zeros at the end of its integer. -/
def trimmed (decimal : Decimal) : Decimal :=
  if 0 < decimal.digits ∧ decimal.digits % 10 = 0 then
    trimmed ⟨decimal.digits / 10, decimal.exponent + 1⟩
  else decimal
termination_by decimal.digits
decreasing_by omega

/-- The text of digits that stand for a decimal. -/
def digitsText (range : PointRange) (digits : List Char) (exponent : Int) : String :=
  let places := digits.length + exponent
  let zeros (n : Int) : List Char := List.replicate n.toNat '0'
  if 0 ≤ exponent ∧ places ≤ range.places then
    String.ofList (digits ++ zeros exponent ++ ['.', '0'])
  else if 0 < places ∧ places ≤ range.places then
    String.ofList (digits.take places.toNat ++ '.' :: digits.drop places.toNat)
  else if -range.zeros < places ∧ places ≤ 0 then
    String.ofList ('0' :: '.' :: zeros (-places) ++ digits)
  else
    let point := if digits.length = 1 then [] else ['.']
    let sign := if 0 < places then "+" else ""
    String.ofList (digits.take 1 ++ point ++ digits.drop 1) ++ s!"e{sign}{places - 1}"

/-- The text of a decimal. Zero is written with one place behind the point. -/
def text (range : PointRange) (decimal : Decimal) : String :=
  if decimal.digits = 0 then "0.0"
  else
    let trimmed := decimal.trimmed
    digitsText range (Nat.toDigits 10 trimmed.digits) trimmed.exponent

end Decimal

end LteReceiver
