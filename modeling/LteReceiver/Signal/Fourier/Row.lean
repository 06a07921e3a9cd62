import LteReceiver.Signal.Phasor

/-!
# Rows of complex values

The values that Fourier transforms are worked out on, and the ways to turn them.

The work is done in double precision and rounded at the end, but no value may leave the range of
single precision on the way: one that does becomes infinite (`clip`), and the values that depend on
it become infinite or no numbers. Which of them do depends on how a value is turned. Multiplying an
infinite value by one that is no multiple of a quarter of a turn, or by the value one with its
imaginary part of zero, gives no number; swapping its parts for a quarter of a turn does not. So the
ways to turn are told apart (`Turn`).
-/

namespace LteReceiver.Fourier

/-! ## Values -/

/-- A complex value in double precision. -/
structure Value where
  re : Float
  im : Float

/-- A power of two by which double precision reaches further than single precision. -/
def headroom : Float := Float.scaleB 1 896

/-- A value as far as single precision reaches; beyond, it is infinite. Scaling there and back by a
power of two changes nothing else. -/
@[inline]
def clip (x : Float) : Float :=
  x * headroom / headroom

/-- The cosine of an eighth of a turn. -/
def diagonal : Float := Float.sqrt 0.5

namespace Value

@[inline]
def add (z w : Value) : Value :=
  ⟨clip (z.re + w.re), clip (z.im + w.im)⟩

@[inline]
def sub (z w : Value) : Value :=
  ⟨clip (z.re - w.re), clip (z.im - w.im)⟩

/-- A value times a number. -/
@[inline]
def scale (z : Value) (x : Float) : Value :=
  ⟨z.re * x, z.im * x⟩

/-- A value turned by the angle of a value of magnitude one. -/
@[inline]
def turned (z unit : Value) : Value :=
  ⟨clip (z.re * unit.re - z.im * unit.im), clip (z.re * unit.im + z.im * unit.re)⟩

/-- A value turned by a quarter of a turn. -/
@[inline]
def quarter (sign : Float) (z : Value) : Value :=
  ⟨-(sign * z.im), sign * z.re⟩

/-- A value turned by an eighth of a turn, half way to its quarter of a turn. -/
@[inline]
def eighth (sign : Float) (z : Value) : Value :=
  ((z.quarter sign).add z).scale diagonal

/-- A value turned by three eighths of a turn. -/
@[inline]
def threeEighths (sign : Float) (z : Value) : Value :=
  ((z.quarter sign).sub z).scale diagonal

end Value

/-- The value of magnitude one at `k` `n`-ths of a turn. -/
def root (sign : Float) (n k : Nat) : Value :=
  let angle := sign * (2 * 3.14159265358979323846) / n.toUInt64.toFloat * k.toUInt64.toFloat
  ⟨angle.cos, angle.sin⟩

/-- A way to turn values. -/
inductive Turn where
  | none
  | eighth
  | quarter
  | threeEighths
  /-- By multiplying with a value of magnitude one. -/
  | unit (value : Value)

/-- The turn by `k` `n`-ths, without multiplying where there is a way around it. -/
def Turn.sparing (sign : Float) (n k : Nat) : Turn :=
  if k = 0 then none
  else if 8 * k = n then eighth
  else if 4 * k = n then quarter
  else if 8 * k = 3 * n then threeEighths
  else unit (root sign n k)

/-! ## Rows -/

/-- Complex values in double precision, their parts apart. -/
structure Row where
  re : FloatArray
  im : FloatArray

namespace Row

/-- The number of values. -/
@[inline]
def size (row : Row) : Nat :=
  row.re.size

/-- No values, with room for some. -/
def withCapacity (n : Nat) : Row :=
  ⟨.emptyWithCapacity n, .emptyWithCapacity n⟩

/-- One more value. -/
@[inline]
def push (row : Row) (z : Value) : Row :=
  ⟨row.re.push z.re, row.im.push z.im⟩

/-- The value at a position. -/
@[inline]
def get (row : Row) (i : Nat) : Value :=
  ⟨row.re.get! i, row.im.get! i⟩

/-- Another value at a position. -/
@[inline]
def set (row : Row) (i : Nat) (z : Value) : Row :=
  ⟨row.re.set! i z.re, row.im.set! i z.im⟩

/-- A row of zeros. -/
def zeros (n : Nat) : Row :=
  ⟨⟨.replicate n 0⟩, ⟨.replicate n 0⟩⟩

/-- The row of samples. -/
def ofSamples (samples : Array Sample) : Row :=
  samples.foldl (fun row z => row.push ⟨z.re.toFloat, z.im.toFloat⟩) (withCapacity samples.size)

/-- The samples of a row, rounded. -/
def toSamples (row : Row) : Array Sample :=
  .ofFn fun i : Fin row.size =>
    let z := row.get i
    ⟨z.re.toFloat32, z.im.toFloat32⟩

/-- The values at multiples of an `n`-th of a turn. -/
def roots (sign : Float) (n : Nat) : Row :=
  (List.range n).foldl (fun row k => row.push (root sign n k)) (.withCapacity n)

/-- A row with `count` of its values, from `i` on, replaced by their images. -/
@[specialize]
def mapRange (f : Value → Value) : Nat → Nat → Row → Row
  | 0, _, row => row
  | count + 1, i, row => mapRange f count (i + 1) (row.set i (f (row.get i)))

/-- A row with `count` of its values, from `i` on, turned. -/
def turnRange (sign : Float) (turn : Turn) (count i : Nat) (row : Row) : Row :=
  match turn with
  | .none => row
  | .eighth => row.mapRange (·.eighth sign) count i
  | .quarter => row.mapRange (·.quarter sign) count i
  | .threeEighths => row.mapRange (·.threeEighths sign) count i
  | .unit value => row.mapRange (·.turned value) count i

/-- Copy `count` values of a row, from `i` on, to the places from `o` on. -/
def copyRange (row : Row) : Nat → Nat → Nat → Row → Row
  | 0, _, _, out => out
  | count + 1, i, o, out => copyRange row count (i + 1) (o + 1) (out.set o (row.get i))

/-- A row of `groups` groups of `n` blocks of `length` values, with block `k` of each group taken
from block `source k`. -/
def rearranged (groups n length : Nat) (source : Nat → Nat) (row : Row) : Row :=
  (List.range groups).foldl (fun out g =>
    (List.range n).foldl (fun out k =>
      row.copyRange length ((n * g + source k) * length) ((n * g + k) * length) out) out)
    (.zeros row.size)

/-! ### Sizes -/

@[simp]
theorem size_set (row : Row) (i : Nat) (z : Value) : (row.set i z).size = row.size := by
  rcases row with ⟨⟨re⟩, im⟩
  simp [set, size, FloatArray.set!, FloatArray.size]

@[simp]
theorem size_push (row : Row) (z : Value) : (row.push z).size = row.size + 1 := by
  rcases row with ⟨⟨re⟩, im⟩
  simp [push, size, FloatArray.push, FloatArray.size]

@[simp]
theorem size_zeros (n : Nat) : (zeros n).size = n := by
  simp [zeros, size, FloatArray.size]

/-- What keeps the size at each step keeps it altogether. -/
theorem size_foldl {α : Type} (steps : List α) (step : Row → α → Row)
    (h : ∀ row a, (step row a).size = row.size) (row : Row) :
    (steps.foldl step row).size = row.size := by
  induction steps generalizing row with
  | nil => rfl
  | cons a rest ih => rw [List.foldl_cons, ih, h]

@[simp]
theorem size_mapRange (f : Value → Value) (count i : Nat) (row : Row) :
    (row.mapRange f count i).size = row.size := by
  induction count generalizing i row with
  | zero => rfl
  | succ count ih => rw [mapRange, ih, size_set]

@[simp]
theorem size_turnRange (sign : Float) (turn : Turn) (count i : Nat) (row : Row) :
    (row.turnRange sign turn count i).size = row.size := by
  cases turn <;> simp [turnRange]

@[simp]
theorem size_copyRange (row : Row) (count i o : Nat) (out : Row) :
    (row.copyRange count i o out).size = out.size := by
  induction count generalizing i o out with
  | zero => rfl
  | succ count ih => rw [copyRange, ih, size_set]

@[simp]
theorem size_rearranged (groups n length : Nat) (source : Nat → Nat) (row : Row) :
    (row.rearranged groups n length source).size = row.size := by
  rw [rearranged, size_foldl, size_zeros]
  intro out g
  rw [size_foldl]
  intro out k
  rw [size_copyRange]

@[simp]
theorem size_toSamples (row : Row) : row.toSamples.size = row.size := by
  simp [toSamples]

@[simp]
theorem size_ofSamples (samples : Array Sample) : (ofSamples samples).size = samples.size := by
  rw [ofSamples, ← Array.foldl_toList, ← Array.length_toList]
  have (list : List Sample) (row : Row) :
      (list.foldl (fun row z => row.push ⟨z.re.toFloat, z.im.toFloat⟩) row).size
        = row.size + list.length := by
    induction list generalizing row with
    | nil => rfl
    | cons z rest ih => rw [List.foldl_cons, ih, size_push, List.length_cons]; omega
  rw [this]
  simp [withCapacity, size, FloatArray.emptyWithCapacity, FloatArray.size]

end Row

end LteReceiver.Fourier
