import LteReceiver.Sync.Primary

/-!
# The secondary synchronization signal

Two interleaved sequences of 31 values in front of the primary symbol (3GPP TS 36.211, 6.11.2). Each
is a shift of one sequence; the pair of shifts names the group of the cell, and the order in which
the pair is sent tells the two half frames apart. The values are scrambled with sequences of the
sector, and those of the second sequence also with one of the first shift.

A symbol is read by correlating each half with all 31 shifts (`SecondaryDetector.detect`). A half is
a vector with a value for each place (`Half`), so what is read of it or of a sequence is inside by
type: positions after a cyclic shift, in a segment (`segmentEnd_le`) and of the interleaved halves
in the whole (`even_lt`, `odd_lt`).
-/

namespace LteReceiver

/-! ## Sequences -/

/-- The length of the interleaved sequences. -/
def halfLength : Nat := 31

theorem halfLength_pos : 0 < halfLength := Nat.zero_lt_succ 30

/-- A value for each place of an interleaved sequence. -/
abbrev Half (α : Type) := Vector α halfLength

/-- The groups of cells. -/
def cellGroups : List Nat :=
  List.range Pci.groupCount

/-- The bits of a shift register of five places that starts as 0, 0, 0, 0, 1: each further bit is
the sum of those at the given places. -/
def registerBits (places : List Nat) : Array Nat :=
  (List.range (halfLength - 5)).foldl
    (fun bits i => bits.push (places.foldr (fun place sum => bits.getD (i + place) 0 + sum) 0 % 2))
    #[0, 0, 0, 0, 1]

theorem size_pushAll (next : Array Nat → Nat → Nat) (steps : List Nat) (bits : Array Nat) :
    (steps.foldl (fun bits i => bits.push (next bits i)) bits).size =
      bits.size + steps.length := by
  induction steps generalizing bits with
  | nil => rfl
  | cons i steps ih =>
    rw [List.foldl_cons, ih, Array.size_push, List.length_cons]
    omega

theorem size_registerBits (places : List Nat) : (registerBits places).size = halfLength := by
  rw [registerBits, size_pushAll, List.length_range]
  rfl

/-- The sequence of a shift register, with 1 for a zero and -1 for a one. -/
def signSequence (places : List Nat) : Half Float32 :=
  Vector.map (fun bit => if bit = 0 then 1 else -1) ⟨registerBits places, size_registerBits places⟩

/-- The sequence whose shifts carry the group. -/
def shiftSequence : Half Float32 := signSequence [2, 0]

/-- The sequence that scrambles with the sector. -/
def sectorSequence : Half Float32 := signSequence [3, 0]

/-- The sequence that scrambles with the first shift. -/
def crossSequence : Half Float32 := signSequence [4, 2, 1, 0]

/-- A value of a sequence after a cyclic shift. -/
def shifted (sequence : Half Float32) (shift n : Nat) : Float32 :=
  sequence.get ⟨(n + shift) % halfLength, Nat.mod_lt _ halfLength_pos⟩

/-- The scrambling values of a sector, for both halves. -/
structure Scrambling where
  even : Half Float32
  odd : Half Float32
deriving DecidableEq

/-- The scrambling of a sector. The odd half is shifted three further. -/
def Scrambling.ofSector (sector : Nat) : Scrambling :=
  { even := .ofFn fun n : Fin halfLength => shifted sectorSequence sector n
    odd := .ofFn fun n : Fin halfLength => shifted sectorSequence (sector + 3) n }

/-- The scrambling value of a first shift, which counts modulo eight. -/
def crossScrambling (shift n : Nat) : Float32 :=
  shifted crossSequence (shift % 8) n

/-! ## Shifts and groups -/

/-- The pair of shifts of a group, the smaller one first. -/
def groupShifts (group : Nat) : Nat × Nat :=
  let q' := group / 30
  let q := (group + q' * (q' + 1) / 2) / 30
  let m := group + q * (q + 1) / 2
  let first := m % halfLength
  (first, (first + m / halfLength + 1) % halfLength)

/-- The group of a pair of shifts in either order, when the pair is one. -/
def groupOf? (first second : Nat) : Option Nat :=
  if halfLength ≤ first ∨ halfLength ≤ second ∨ first = second then none
  else
    let pair := if first < second then (first, second) else (second, first)
    cellGroups.find? fun group => groupShifts group == pair

/-- The subframe a pair of shifts was sent in, by its order. -/
def subframeOf (first second : Nat) : Nat :=
  if first < second then 0 else 5

/-! ## The signal -/

theorem half_lt (k : Fin syncLength) : k.val / 2 < halfLength :=
  Nat.div_lt_of_lt_mul k.isLt

theorem even_lt (n : Fin halfLength) : 2 * n.val < syncLength :=
  Nat.mul_lt_mul_of_pos_left n.isLt Nat.zero_lt_two

theorem odd_lt (n : Fin halfLength) : 2 * n.val + 1 < syncLength := by
  have hn : n.val < 31 := n.isLt
  have hlength : syncLength = 62 := rfl
  omega

/-- The values of a group, a sector and a subframe, which are the first one or another. -/
def secondarySequence (group sector subframe : Nat) : Array Sample :=
  let (m0, m1) := groupShifts group
  let (first, second) := if subframe = 0 then (m0, m1) else (m1, m0)
  let scrambling := Scrambling.ofSector sector
  .ofFn fun k : Fin syncLength =>
    let n : Fin halfLength := ⟨k.val / 2, half_lt k⟩
    if k.val % 2 = 0 then
      ⟨shifted shiftSequence first n * scrambling.even.get n, 0⟩
    else
      ⟨shifted shiftSequence second n * scrambling.odd.get n * crossScrambling first n, 0⟩

/-- The secondary symbol, without its prefix. -/
def secondarySymbol (group sector subframe size : Nat)
    (transform : Transform := .doublePrecision) : Array Sample :=
  syncSymbol transform (spread (secondarySequence group sector subframe) size)

/-! ## Correlation -/

/-- How a received half is compared with a shift. -/
inductive SecondaryAlgorithm where
  /-- One correlation over the whole half. -/
  | full
  /-- The magnitudes of correlations over a number of segments, added up. -/
  | segmented (segments : Nat)
  /-- A correlation of the turns from value to value, which a steady turn does not disturb. -/
  | differential
deriving DecidableEq, Repr

instance : Inhabited SecondaryAlgorithm := ⟨.segmented 3⟩

/-- The correlation of the values from one position up to another with a shift. -/
def segmentCorrelation (values : Half Sample) (shift first last : Nat) (h : last ≤ halfLength) :
    Sample :=
  Fin.foldl (last - first) (fun total i =>
    let n : Fin halfLength := ⟨first + i, Nat.lt_of_lt_of_le (Nat.add_lt_of_lt_sub' i.isLt) h⟩
    total + (values.get n).scale (shifted shiftSequence shift n)) .zero

/-- Where a segment of a number of segments ends; the last one takes the remainder. -/
def segmentEnd (segments p : Nat) : Nat :=
  if p + 1 = segments then halfLength else p * (halfLength / segments) + halfLength / segments

/-- Segments lie inside a half. -/
theorem segmentEnd_le {segments p : Nat} (h : p < segments) :
    segmentEnd segments p ≤ halfLength := by
  unfold segmentEnd
  by_cases hlast : p + 1 = segments
  · exact Nat.le_of_eq (if_pos hlast)
  · rw [if_neg hlast]
    calc p * (halfLength / segments) + halfLength / segments
        = (p + 1) * (halfLength / segments) := (Nat.succ_mul _ _).symm
      _ ≤ segments * (halfLength / segments) := Nat.mul_le_mul_right _ h
      _ ≤ halfLength := Nat.mul_div_le _ _

/-- The magnitudes of the correlations over a number of segments added up. -/
def segmentedMetric (values : Half Sample) (segments shift : Nat) : Float32 :=
  Fin.foldl segments (fun total p =>
    let first := p * (halfLength / segments)
    total + Sample.magnitude
      (segmentCorrelation values shift first (segmentEnd segments p) (segmentEnd_le p.isLt))) 0

/-- The magnitude of the correlation of turns. -/
def differentialMetric (values : Half Sample) (shift : Nat) : Float32 :=
  Sample.magnitude (Fin.foldl (halfLength - 1) (fun total n =>
    let next : Fin halfLength := ⟨n + 1, Nat.add_lt_of_lt_sub n.isLt⟩
    let here : Fin halfLength := ⟨n, Nat.lt_of_succ_lt next.isLt⟩
    let turn := values.get next * (values.get here).conj
    let expected := shifted shiftSequence shift next * shifted shiftSequence shift here
    total + turn.scale expected) .zero)

/-- The similarity of a received half to each shift. The number of segments is kept between 1 and
31. -/
def shiftMetrics (values : Half Sample) (algorithm : SecondaryAlgorithm) : Half Float32 :=
  .ofFn fun shift =>
    match algorithm with
    | .full => segmentedMetric values 1 shift
    | .segmented segments => segmentedMetric values (max 1 (min segments halfLength)) shift
    | .differential => differentialMetric values shift

theorem maxIndex_lt_halfLength (metrics : Half Float32) :
    maxIndex metrics.toArray < halfLength := by
  have hsize : metrics.toArray.size = halfLength := metrics.size_toArray
  exact Nat.lt_of_lt_of_eq (maxIndex_lt (by rw [hsize]; exact halfLength_pos)) hsize

/-- The most similar shift. -/
def bestShift (values : Half Sample) (algorithm : SecondaryAlgorithm) :
    Fin halfLength × Float32 :=
  let metrics := shiftMetrics values algorithm
  let best : Fin halfLength := ⟨maxIndex metrics.toArray, maxIndex_lt_halfLength metrics⟩
  (best, metrics.get best)

/-! ## The detector -/

/-- What a secondary symbol was read as. -/
structure SecondaryMatch where
  first : Nat
  firstMetric : Float32
  second : Nat
  secondMetric : Float32

/-- A way to read a symbol of a transform's size that is scrambled for some sector. -/
abbrev ShiftMeter :=
  (scrambling : Scrambling) → (symbol : Array Sample) → (algorithm : SecondaryAlgorithm) →
    SecondaryMatch

/-- The shifts that a received symbol is most similar to. The first one has to be known before the
second half can be unscrambled. -/
def similarShifts (transform : Transform) (scrambling : Scrambling) (symbol : Array Sample)
    (algorithm : SecondaryAlgorithm) : SecondaryMatch :=
  let bins := transform.apply .forward symbol
  let values : Vector Sample syncLength := ⟨gather bins, size_gather bins⟩
  let even : Half Sample := .ofFn fun n =>
    (values.get ⟨2 * n, even_lt n⟩).scale (scrambling.even.get n)
  let (first, firstMetric) := bestShift even algorithm
  let odd : Half Sample := .ofFn fun n =>
    ((values.get ⟨2 * n + 1, odd_lt n⟩).scale (scrambling.odd.get n)).scale
      (crossScrambling first n)
  let (second, secondMetric) := bestShift odd algorithm
  ⟨first, firstMetric, second, secondMetric⟩

/-- A reader of secondary symbols of one sector. -/
structure SecondaryDetector where
  fftSize : Nat
  sector : Nat
  /-- The scrambling of the sector. -/
  scrambling : Scrambling

namespace SecondaryDetector

/-- A reader for a transform size, of sector zero at first. -/
def ofFftSize (fftSize : Nat) : Except ConfigurationFault SecondaryDetector :=
  if isFftSize fftSize then .ok ⟨fftSize, 0, .ofSector 0⟩
  else .error (.secondaryFftSize fftSize)

/-- Read symbols of another sector from now on. -/
def setSector (detector : SecondaryDetector) (sector : Nat) : SecondaryDetector :=
  if sector = detector.sector then detector
  else { detector with sector := sector, scrambling := .ofSector sector }

/-- Read a received symbol. -/
def detect (detector : SecondaryDetector) (received : Array Sample)
    (algorithm : SecondaryAlgorithm) (shifts : ShiftMeter := similarShifts .doublePrecision) :
    Except ConfigurationFault SecondaryMatch :=
  if received.size < detector.fftSize then
    .error (.secondarySymbol received.size detector.fftSize)
  else .ok (shifts detector.scrambling (received.extract 0 detector.fftSize) algorithm)

end SecondaryDetector

end LteReceiver
