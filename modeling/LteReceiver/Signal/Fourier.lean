import LteReceiver.Signal.Fourier.Scheme

/-!
# Fourier transforms

Discrete Fourier transforms of any length, in both directions and without a scale factor.

## How it works

A row holds many transforms at once: those of a length over `columns` columns at a stride are over
the values `columns * stride` apart, for each column and each place below the stride. Their outputs
are kept `stride` apart, those of each column together. A scheme is applied to a row by going
through its parts (`Scheme.apply`): the first part of a divided transform works on more columns, the
second one at a larger stride, and the outputs of the whole end up in their natural order.

## Sizes

No step changes the number of values, so a transform has as many values as there are samples
(`size_fourier`).

What uses transforms takes them as a parameter (`Transform`), of which only that is known. The ones
above are what the receiver runs with (`Transform.doublePrecision`).
-/

namespace LteReceiver

/-- The directions of a transform, by the sign of the angle. -/
inductive Direction where
  | forward
  | inverse
deriving DecidableEq, Repr

/-- The sign of the angles. -/
def Direction.sign : Direction → Float
  | forward => -1
  | inverse => 1

namespace Fourier

/-! ## Short transforms -/

/-- The transform of two values. -/
@[inline]
def two (a b : Value) : Value × Value :=
  (a.add b, a.sub b)

/-- The transform of four values. -/
@[inline]
def four (sign : Float) (a b c d : Value) : Value × Value × Value × Value :=
  let (evenSum, evenGap) := two a c
  let (oddSum, oddGap) := two b d
  let (first, third) := two evenSum oddSum
  let (second, fourth) := two evenGap (oddGap.quarter sign)
  (first, second, third, fourth)

/-- The transform of eight values. -/
@[inline]
def eight (sign : Float) (a b c d e f g h : Value) :
    Value × Value × Value × Value × Value × Value × Value × Value :=
  let (a, c, e, g) := four sign a c e g
  let (b, d, f, h) := four sign b d f h
  let (a, b) := two a b
  let (c, d) := two c (d.eighth sign)
  let (e, f) := two e (f.quarter sign)
  let (g, h) := two g (h.threeEighths sign)
  (a, c, e, g, b, d, f, h)

/-! ## Odd transforms

The values of an odd transform but the first are taken in pairs from both ends. The cosines of a
pair are equal and its sines opposite, so the cosines go with the sum of a pair and the sines with
its gap, and of two opposite outputs one is the sum and one the gap of what these add up to. -/

/-- The first of `count` pairs with positions `i` and `j`, and those inwards from it: the sums and
the gaps, the latter turned by a quarter of a turn. -/
def oddPairs (row : Row) (gap : Nat) : Nat → Nat → Nat → Row → Row → Row × Row
  | 0, _, _, sums, gaps => (sums, gaps)
  | count + 1, i, j, sums, gaps =>
    let a := row.get i
    let b := row.get j
    oddPairs row gap count (i + gap) (j - gap) (sums.push (a.add b))
      (gaps.push ((a.sub b).quarter 1))

/-- A start and the values of a row from `i` on, `count` of them. -/
def total (row : Row) : Nat → Nat → Float → Float → Value
  | 0, _, re, im => ⟨re, im⟩
  | count + 1, i, re, im =>
    let z := row.get i
    total row count (i + 1) (clip (re + z.re)) (clip (im + z.im))

/-- A start and the values of a row from `i` on, `count` of them, each times a weight: that at `at`
for the first one, and `step` further on, around a circle of `p`, for each next one. -/
def weighted (weights : FloatArray) (row : Row) (p step : Nat) :
    Nat → Nat → Nat → Float → Float → Value
  | 0, _, _, re, im => ⟨re, im⟩
  | count + 1, i, place, re, im =>
    let z := row.get i
    let weight := weights.get! place
    let next := place + step
    weighted weights row p step count (i + 1) (if next < p then next else next - p)
      (clip (re + weight * z.re)) (clip (im + weight * z.im))

/-! ## Columns -/

/-- Where the values of a column are. -/
structure Column where
  sign : Float
  /-- The distance of the values of a transform. -/
  gap : Nat
  /-- The distance of its outputs. -/
  stride : Nat

namespace Column

/-- Transform pairs of values, `count` of them from `i` on, with outputs from `o` on. -/
def pairs (column : Column) (row : Row) : Nat → Nat → Nat → Row → Row
  | 0, _, _, out => out
  | count + 1, i, o, out =>
    let (a, b) := two (row.get i) (row.get (i + column.gap))
    pairs column row count (i + 1) (o + 1) ((out.set o a).set (o + column.stride) b)

/-- Transform groups of four values. -/
def fours (column : Column) (row : Row) : Nat → Nat → Nat → Row → Row
  | 0, _, _, out => out
  | count + 1, i, o, out =>
    let gap := column.gap
    let stride := column.stride
    let (a, b, c, d) := four column.sign (row.get i) (row.get (i + gap)) (row.get (i + 2 * gap))
      (row.get (i + 3 * gap))
    let out := ((out.set o a).set (o + stride) b).set (o + 2 * stride) c
    fours column row count (i + 1) (o + 1) (out.set (o + 3 * stride) d)

/-- Transform groups of eight values. -/
def eights (column : Column) (row : Row) : Nat → Nat → Nat → Row → Row
  | 0, _, _, out => out
  | count + 1, i, o, out =>
    let gap := column.gap
    let stride := column.stride
    let (a, b, c, d, e, f, g, h) := eight column.sign (row.get i) (row.get (i + gap))
      (row.get (i + 2 * gap)) (row.get (i + 3 * gap)) (row.get (i + 4 * gap))
      (row.get (i + 5 * gap)) (row.get (i + 6 * gap)) (row.get (i + 7 * gap))
    let out := ((out.set o a).set (o + stride) b).set (o + 2 * stride) c
    let out := ((out.set (o + 3 * stride) d).set (o + 4 * stride) e).set (o + 5 * stride) f
    eights column row count (i + 1) (o + 1)
      ((out.set (o + 6 * stride) g).set (o + 7 * stride) h)

/-- Transform groups of `p` values, an odd number. -/
def odds (column : Column) (p : Nat) (roots row : Row) : Nat → Nat → Nat → Row → Row
  | 0, _, _, out => out
  | count + 1, i, o, out =>
    let half := p / 2
    let first := row.get i
    let (sums, gaps) := oddPairs row column.gap half (i + column.gap) (i + (p - 1) * column.gap)
      (.withCapacity half) (.withCapacity half)
    let out := out.set o (total sums half 0 first.re first.im)
    let out := (List.range half).foldl (fun out k =>
      let k := k + 1
      let even := weighted roots.re sums p k half 0 k first.re first.im
      let skew := weighted roots.im gaps p k half 0 k 0 0
      (out.set (o + k * column.stride) (even.add skew)).set (o + (p - k) * column.stride)
        (even.sub skew)) out
    odds column p roots row count (i + 1) (o + 1) out

end Column

/-- Transform each of some columns, given how to transform some values of one. -/
@[inline]
def eachColumn (p columns stride : Nat) (row : Row) (transform : Nat → Nat → Nat → Row → Row) :
    Row :=
  (List.range columns).foldl (fun out c => transform stride (c * stride) (p * c * stride) out)
    (.zeros row.size)

/-! ## Schemes -/

/-- Turn the outputs of transforms of length `p` on their way to transforms of length `q`. -/
def Turning.apply (turning : Turning) (sign : Float) (p q columns stride : Nat) (row : Row) : Row :=
  (List.range (q * columns)).foldl (fun row c =>
    (List.range (p - 1)).foldl (fun row k =>
      let part := c / columns * (k + 1)
      let turn := match turning with
        | .multiplied => .unit (root sign (p * q) part)
        | .sparing => .sparing sign (p * q) part
      row.turnRange sign turn stride ((p * c + k + 1) * stride)) row) row

/-- Which value goes to place `k` ahead of transforms of lengths `p` and `q` without turns between
them: the values of one of length `p` are steps of `q` around a circle, and the first values of two
neighbours are a step of `p` apart. -/
def inputPlace (p q k : Nat) : Nat :=
  (k % q * p + k / q * q) % (p * q)

/-- Where these transforms leave output `k` of the whole: at `k` modulo `p` among the outputs of the
first ones, and modulo `q` among those of the second ones. -/
def outputPlace (p q k : Nat) : Nat :=
  k % p + p * (k % q)

/-- The transforms of a row by a scheme. -/
def Scheme.apply (sign : Float) : Scheme → Nat → Nat → Row → Row
  | one, _, _, row => row
  | two, columns, stride, row =>
    eachColumn 2 columns stride row (Column.pairs ⟨sign, columns * stride, stride⟩ row)
  | four, columns, stride, row =>
    eachColumn 4 columns stride row (Column.fours ⟨sign, columns * stride, stride⟩ row)
  | eight, columns, stride, row =>
    eachColumn 8 columns stride row (Column.eights ⟨sign, columns * stride, stride⟩ row)
  | odd p, columns, stride, row =>
    eachColumn p columns stride row
      (Column.odds ⟨sign, columns * stride, stride⟩ p (.roots sign p) row)
  | divided turning p q, columns, stride, row =>
    let row := p.apply sign (q.length * columns) stride row
    let row := turning.apply sign p.length q.length columns stride row
    q.apply sign columns (p.length * stride) row
  | coprime p q, columns, stride, row =>
    let m := p.length
    let n := q.length
    let row := row.rearranged 1 (m * n) (columns * stride) (inputPlace m n)
    let row := p.apply sign (n * columns) stride row
    let row := q.apply sign columns (m * stride) row
    row.rearranged columns (m * n) stride (outputPlace m n)

/-! ## Sizes -/

theorem Column.size_pairs (column : Column) (row : Row) (count i o : Nat) (out : Row) :
    (column.pairs row count i o out).size = out.size := by
  induction count generalizing i o out with
  | zero => rfl
  | succ count ih => simp [pairs, ih]

theorem Column.size_fours (column : Column) (row : Row) (count i o : Nat) (out : Row) :
    (column.fours row count i o out).size = out.size := by
  induction count generalizing i o out with
  | zero => rfl
  | succ count ih => simp [fours, ih]

theorem Column.size_eights (column : Column) (row : Row) (count i o : Nat) (out : Row) :
    (column.eights row count i o out).size = out.size := by
  induction count generalizing i o out with
  | zero => rfl
  | succ count ih => simp [eights, ih]

theorem Column.size_odds (column : Column) (p : Nat) (roots row : Row) (count i o : Nat)
    (out : Row) : (column.odds p roots row count i o out).size = out.size := by
  induction count generalizing i o out with
  | zero => rfl
  | succ count ih =>
    rw [odds, ih, Row.size_foldl, Row.size_set]
    intro out k
    simp

theorem size_eachColumn (p columns stride : Nat) (row : Row)
    (transform : Nat → Nat → Nat → Row → Row)
    (h : ∀ count i o out, (transform count i o out).size = out.size) :
    (eachColumn p columns stride row transform).size = row.size := by
  rw [eachColumn, Row.size_foldl _ _ fun out c => h _ _ _ out, Row.size_zeros]

theorem Turning.size_apply (turning : Turning) (sign : Float) (p q columns stride : Nat)
    (row : Row) : (turning.apply sign p q columns stride row).size = row.size := by
  rw [apply, Row.size_foldl]
  intro row c
  rw [Row.size_foldl]
  intro row k
  rw [Row.size_turnRange]

/-- A scheme leaves as many values as there are. -/
theorem Scheme.size_apply (sign : Float) (scheme : Scheme) (columns stride : Nat) (row : Row) :
    (scheme.apply sign columns stride row).size = row.size := by
  induction scheme generalizing columns stride row with
  | one => rfl
  | two => exact size_eachColumn _ _ _ _ _ (Column.size_pairs _ row)
  | four => exact size_eachColumn _ _ _ _ _ (Column.size_fours _ row)
  | eight => exact size_eachColumn _ _ _ _ _ (Column.size_eights _ row)
  | odd p => exact size_eachColumn _ _ _ _ _ (Column.size_odds _ p _ row)
  | divided turning p q ihp ihq => rw [apply, ihq, Turning.size_apply, ihp]
  | coprime p q ihp ihq => simp [apply, ihp, ihq]

end Fourier

/-- The Fourier transform of samples. -/
def fourier (direction : Direction) (samples : Array Sample) : Array Sample :=
  ((Fourier.Scheme.ofLength samples.size).apply direction.sign 1 1 (.ofSamples samples)).toSamples

/-- A transform has as many values as there are samples. -/
theorem size_fourier (direction : Direction) (samples : Array Sample) :
    (fourier direction samples).size = samples.size := by
  simp [fourier, Fourier.Scheme.size_apply]

/-! ## Transforms as a parameter -/

/-- A way to take Fourier transforms, as many values as there are samples. -/
structure Transform where
  apply : Direction → Array Sample → Array Sample
  size_apply : ∀ direction samples, (apply direction samples).size = samples.size

/-- The transforms of the receiver. -/
def Transform.doublePrecision : Transform where
  apply := fourier
  size_apply := size_fourier

end LteReceiver
