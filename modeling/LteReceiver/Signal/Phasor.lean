/-!
# Phasors

A phasor is a complex amplitude: a sample of a signal, the value of a subcarrier or the gain of a
channel. The arithmetic is written over any type of numbers, so that what is computed in single
precision can also be read over exact numbers. A `Sample` is a phasor in single precision.
-/

namespace LteReceiver

/-- Counts are used as numbers in single precision. -/
instance instNatCastFloat32 : NatCast Float32 := ⟨Float32.ofNat⟩

/-- A complex amplitude. -/
structure Phasor (R : Type) where
  re : R
  im : R
deriving DecidableEq

namespace Phasor

variable {R : Type}

instance [Add R] : Add (Phasor R) :=
  ⟨fun z w => ⟨z.re + w.re, z.im + w.im⟩⟩

instance [Sub R] : Sub (Phasor R) :=
  ⟨fun z w => ⟨z.re - w.re, z.im - w.im⟩⟩

instance [Add R] [Sub R] [Mul R] : Mul (Phasor R) :=
  ⟨fun z w => ⟨z.re * w.re - z.im * w.im, z.re * w.im + z.im * w.re⟩⟩

/-- The conjugate. -/
def conj [Neg R] (z : Phasor R) : Phasor R :=
  ⟨z.re, -z.im⟩

/-- The power of a phasor, its squared magnitude. -/
def power [Add R] [Mul R] (z : Phasor R) : R :=
  z.re * z.re + z.im * z.im

/-- Both parts times a number. -/
def scale [Mul R] (z : Phasor R) (factor : R) : Phasor R :=
  ⟨z.re * factor, z.im * factor⟩

/-- Both parts divided by a number. -/
def shrink [Div R] (z : Phasor R) (divisor : R) : Phasor R :=
  ⟨z.re / divisor, z.im / divisor⟩

/-- The phasor zero. -/
def zero [NatCast R] : Phasor R :=
  ⟨(0 : Nat), (0 : Nat)⟩

end Phasor

/-! ## Samples -/

/-- A sample of a signal. -/
abbrev Sample := Phasor Float32

instance : Inhabited Sample := ⟨⟨0, 0⟩⟩

namespace Sample

/-- The sample zero. -/
def zero : Sample := ⟨0, 0⟩

/-- The ratio of a circle's circumference to its diameter, in single precision. -/
def pi : Float32 := 3.14159265358979323846

/-- The magnitude. It is taken in double precision, where squares of single precision numbers do not
overflow, and is infinite as soon as one part is. -/
def magnitude (z : Sample) : Float32 :=
  if z.re.isInf || z.im.isInf then Float32.abs (if z.re.isInf then z.re else z.im)
  else
    let re := z.re.toFloat
    let im := z.im.toFloat
    (Float.sqrt (re * re + im * im)).toFloat32

/-- The angle, between minus and plus a half turn. -/
def angle (z : Sample) : Float32 :=
  Float32.atan2 z.im z.re

/-- The sample of magnitude one at an angle. -/
def unit (angle : Float32) : Sample :=
  ⟨Float32.cos angle, Float32.sin angle⟩

end Sample

end LteReceiver
