import LteReceiver.Decimal.Basic

/-!
# Scalars

The single values of a structured text. A scalar keeps its text. Whether it is a number, a truth
value or nothing at all is decided by the one who asks for it (`Scalar.nat?`, `Scalar.float?`,
`Scalar.bool?`), and only a scalar without quotes can be any of these.
-/

namespace LteReceiver

/-- The text of a scalar, and whether it was quoted. -/
structure Scalar where
  text : String
  quoted : Bool
deriving DecidableEq, Repr

namespace Scalar

/-- A scalar that is not there. -/
def absent : Scalar := ⟨"", false⟩

/-- The text without quotes. -/
def plain? (scalar : Scalar) : Option String :=
  if scalar.quoted then none else some scalar.text

/-- Whether the scalar stands for nothing. -/
def isNull (scalar : Scalar) : Bool :=
  !scalar.quoted && ["", "~", "null", "Null", "NULL"].contains scalar.text

/-- The truth value of a scalar. -/
def bool? (scalar : Scalar) : Option Bool := do
  let text ← scalar.plain?
  if ["true", "True", "TRUE"].contains text then some true
  else if ["false", "False", "FALSE"].contains text then some false
  else none

/-- The value of a digit in a base. -/
def digit? (base : Nat) (c : Char) : Option Nat :=
  let value :=
    if '0' ≤ c ∧ c ≤ '9' then c.toNat - '0'.toNat
    else if 'a' ≤ c ∧ c ≤ 'f' then c.toNat - 'a'.toNat + 10
    else if 'A' ≤ c ∧ c ≤ 'F' then c.toNat - 'A'.toNat + 10
    else base
  if value < base then some value else none

/-- The number written by digits in a base, at least one of them. -/
def digits? (base : Nat) : List Char → Option Nat
  | [] => none
  | first :: rest => (first :: rest).foldlM (fun n c => (digit? base c).map (base * n + ·)) 0

/-- The natural number of a scalar: decimal without a leading zero, or in base 16, 8 or 2 with a
mark in front. -/
def nat? (scalar : Scalar) : Option Nat := do
  let text ← scalar.plain?
  let unsigned := match text.toList with
    | '+' :: rest => rest
    | rest => rest
  match unsigned with
  | '0' :: 'x' :: rest => digits? 16 rest
  | '0' :: 'o' :: rest => digits? 8 rest
  | '0' :: 'b' :: rest => digits? 2 rest
  | ['0'] => some 0
  | '0' :: _ => none
  | rest => digits? 10 rest

/-- The decimal digits at the start of a text, and the rest. -/
def spanDigits (chars : List Char) : List Char × List Char :=
  chars.span Char.isDigit

/-- A decimal exponent: nothing, or a mark, a sign and digits. -/
def exponent? : List Char → Option Int
  | [] => some 0
  | mark :: rest =>
    if mark = 'e' ∨ mark = 'E' then
      match rest with
      | '-' :: digits => (digits? 10 digits).map fun n => -(n : Int)
      | '+' :: digits => (digits? 10 digits).map Int.ofNat
      | digits => (digits? 10 digits).map Int.ofNat
    else none

/-- An unsigned decimal number, which has a digit before or after its point. -/
def decimal? (chars : List Char) : Option Decimal := do
  let (whole, rest) := spanDigits chars
  let (part, rest) := match rest with
    | '.' :: rest => spanDigits rest
    | rest => ([], rest)
  let digits ← digits? 10 (whole ++ part)
  let exponent ← exponent? rest
  return ⟨digits, exponent - part.length⟩

/-- The value of an unsigned decimal number in double precision. -/
def unsignedFloat? (chars : List Char) : Option Float :=
  (decimal? chars).map fun ⟨digits, exponent⟩ =>
    Float.ofScientific digits (exponent < 0) exponent.natAbs

/-- The number of a scalar in double precision. Infinity and what is not a number have names of
their own; a decimal number that is too large is none. -/
def float? (scalar : Scalar) : Option Float := do
  let text ← scalar.plain?
  if [".inf", ".Inf", ".INF", "+.inf", "+.Inf", "+.INF"].contains text then some (1 / 0)
  else if ["-.inf", "-.Inf", "-.INF"].contains text then some (-1 / 0)
  else if [".nan", ".NaN", ".NAN", "+.nan", "+.NaN", "+.NAN"].contains text then some (0 / 0)
  else
    let value ← match text.toList with
      | '-' :: rest => (unsignedFloat? rest).map fun x => -x
      | '+' :: rest => unsignedFloat? rest
      | rest => unsignedFloat? rest
    if value.isFinite then some value else none

end Scalar

end LteReceiver
