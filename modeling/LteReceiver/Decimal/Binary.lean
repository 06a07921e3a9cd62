/-!
# The value of a floating point number

A finite number in single precision is an integer of at most 24 bits times a power of two, and one
in double precision an integer of at most 53 bits times a power of two. `Binary` is that value, read
off the bits of the number, and exact.
-/

namespace LteReceiver

/-- How many bits of a number are its fraction and how many its exponent. The sign is one more. -/
structure Precision where
  fractionBits : Nat
  exponentBits : Nat
deriving DecidableEq, Repr

namespace Precision

def single : Precision := ⟨23, 8⟩

def double : Precision := ⟨52, 11⟩

/-- The exponent of the smallest numbers. -/
def leastExponent (precision : Precision) : Int :=
  2 - Nat.pow 2 (precision.exponentBits - 1) - precision.fractionBits

end Precision

/-- A sign, an integer and the exponent of a power of two. -/
structure Binary where
  negative : Bool
  mantissa : Nat
  exponent : Int
deriving DecidableEq, Repr

namespace Binary

/-- The value of the bits of a number, if it is finite. -/
def ofBits? (precision : Precision) (bits : Nat) : Option Binary :=
  let ⟨fractionBits, exponentBits⟩ := precision
  let fraction := bits % Nat.pow 2 fractionBits
  let biased := bits / Nat.pow 2 fractionBits % Nat.pow 2 exponentBits
  let negative := bits / Nat.pow 2 (fractionBits + exponentBits) % 2 = 1
  if biased = Nat.pow 2 exponentBits - 1 then none
  else if biased = 0 then some ⟨negative, fraction, precision.leastExponent⟩
  else some ⟨negative, fraction + Nat.pow 2 fractionBits,
    precision.leastExponent + (biased - 1 : Nat)⟩

/-- The value of a number in single precision, if it is finite. -/
def ofFloat32? (x : Float32) : Option Binary :=
  ofBits? .single x.toBits.toNat

/-- The value of a number in double precision, if it is finite. -/
def ofFloat? (x : Float) : Option Binary :=
  ofBits? .double x.toBits.toNat

/-- An integer times powers of two and of ten, as a quotient. -/
def quotient (integer : Nat) (two ten : Int) : Nat × Nat :=
  (integer * Nat.pow 2 two.toNat * Nat.pow 10 ten.toNat,
    Nat.pow 2 (-two).toNat * Nat.pow 10 (-ten).toNat)

end Binary

end LteReceiver
