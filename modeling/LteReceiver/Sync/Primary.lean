import LteReceiver.Error
import LteReceiver.Ofdm
import LteReceiver.Signal.Average
import LteReceiver.Signal.Fourier

/-!
# The primary synchronization signal

A sequence of 62 values, one of three, that a cell sends twice in a frame (3GPP TS 36.211, 6.11.1).
Finding it gives the timing of the cell and its sector, and the turn between its two halves gives
the frequency offset.

## How it is found

A window of samples is correlated with the symbol of the sector at every lag at once, by way of
Fourier transforms that are long enough not to wrap around. The spectra of the symbols depend on the
window's length only by the size of the transform and are kept for the next call (`Correlator`). The
correlation power can be averaged over calls; an average is good for one sector and one number
of lags.

How transforms are taken is chosen when a detector is made. A search is an action on a detector: it
answers or fails, and leaves a detector in either case.
-/

namespace LteReceiver

/-! ## The sequence -/

/-- Values of a synchronization sequence. -/
def syncLength : Nat := 62

/-- The roots of the three sequences. -/
def primaryRoots : Vector Nat 3 := #v[25, 29, 34]

/-- The angle of a value of the sequence with a root, in single precision throughout. The value at
the carrier is left out, so the second half is numbered one further. -/
def primaryAngle (root n : Nat) : Float32 :=
  let u : Float32 := (root : Nat)
  let x : Float32 := (n : Nat)
  if n < 31 then (-Sample.pi) * u * x * (x + 1) / 63
  else (-Sample.pi) * u * (x + 1) * (x + 2) / 63

/-- The sequence of a sector; sectors count modulo three. -/
def primarySequence (sector : Nat) : Array Sample :=
  let root := primaryRoots[sector % 3]
  .ofFn fun n : Fin syncLength => .unit (primaryAngle root n)

/-! ## Subcarriers -/

/-- The transform bin of a value: half of the sequence lies below the carrier and half above it, and
the carrier's own bin stays empty. -/
def syncBin (n size : Nat) : Nat :=
  if n < 31 then size - 31 + n else n - 30

/-- The bin, when the transform reaches that far below the carrier. -/
def syncBin? (n size : Nat) : Option Nat :=
  if n < 31 ∧ size < 31 then none else some (syncBin n size)

/-- Whether the first values of a sequence have bins inside a transform. -/
def binsFit (count size : Nat) : Bool :=
  (List.range (min count syncLength)).all fun n => (syncBin? n size).any (· < size)

/-- The bins of a transform that hold a sequence, all others zero. -/
def spread (sequence : Array Sample) (size : Nat) : Array Sample :=
  (List.range (min sequence.size syncLength)).foldl
    (fun bins n => bins.setIfInBounds (syncBin n size) (sequence.getD n .zero))
    (.replicate size .zero)

/-- The bins that hold a sequence, when the transform is large enough. -/
def spread? (sequence : Array Sample) (size : Nat) : Option (Array Sample) :=
  if binsFit sequence.size size then some (spread sequence size) else none

/-- The sequence held by the bins of a transform. -/
def gather (bins : Array Sample) : Array Sample :=
  .ofFn fun n : Fin syncLength => bins.getD (syncBin n bins.size) .zero

theorem size_gather (bins : Array Sample) : (gather bins).size = syncLength :=
  Array.size_ofFn

/-- The sequence held by bins, when the transform is large enough. -/
def gather? (bins : Array Sample) : Option (Array Sample) :=
  if binsFit syncLength bins.size then some (gather bins) else none

/-! ## The symbol -/

/-- The scale that makes the mean power of a synchronization symbol one. -/
def syncScale : Float32 :=
  1 / Float32.sqrt 62

/-- The symbol of a sequence, without its prefix. -/
def syncSymbol (transform : Transform) (bins : Array Sample) : Array Sample :=
  (transform.apply .inverse bins).map (·.scale syncScale)

/-- The primary symbol of a sector. -/
def primarySymbol (sector size : Nat) (transform : Transform := .doublePrecision) : Array Sample :=
  syncSymbol transform (spread (primarySequence sector) size)

/-- The primary symbol, when the transform is large enough. -/
def primarySymbol? (sector size : Nat) (transform : Transform := .doublePrecision) :
    Option (Array Sample) :=
  (spread? (primarySequence sector) size).map (syncSymbol transform)

/-! ## Correlation -/

/-- Samples followed by zeros up to a size. -/
def padded (samples : Array Sample) (size : Nat) : Array Sample :=
  samples ++ Array.replicate (size - samples.size) Sample.zero

/-- The spectra that a window is multiplied with, for one size of transform. -/
structure Correlator where
  transform : Transform
  size : Nat
  /-- The conjugate spectrum of each sector's symbol, worked out when it is needed. -/
  spectra : Vector (Thunk (Array Sample)) 3
  size_le : ∀ sector, size ≤ (spectra.get sector).get.size

namespace Correlator

/-- The conjugate spectrum of a symbol for a size. -/
def spectrum (transform : Transform) (symbol : Array Sample) (size : Nat) : Array Sample :=
  (transform.apply .forward (padded symbol size)).map (·.conj)

/-- A spectrum has as many values as the transform that it is made for. -/
theorem le_size_spectrum (transform : Transform) (symbol : Array Sample) (size : Nat) :
    size ≤ (spectrum transform symbol size).size := by
  simp only [spectrum, padded, Array.size_map, transform.size_apply, Array.size_append,
    Array.size_replicate]
  omega

theorem le_size_spectra (transform : Transform) (symbols : Vector (Array Sample) 3) (size : Nat)
    (sector : Fin 3) :
    size ≤ ((symbols.map fun symbol => Thunk.mk fun _ => spectrum transform symbol size).get
      sector).get.size := by
  have hget : (symbols.map fun symbol => Thunk.mk fun _ => spectrum transform symbol size).get
      sector = Thunk.mk fun _ => spectrum transform (symbols.get sector) size :=
    Vector.getElem_map _ sector.isLt
  rw [hget]
  exact le_size_spectrum transform _ size

/-- The spectra of symbols for a size. -/
def ofSymbols (transform : Transform) (symbols : Vector (Array Sample) 3) (size : Nat) :
    Correlator where
  transform := transform
  size := size
  spectra := symbols.map fun symbol => .mk fun _ => spectrum transform symbol size
  size_le := le_size_spectra transform symbols size

/-- The size of transform at which no lag of a window wraps around. -/
def sizeFor? (window fftSize : Nat) : Option Nat :=
  (nextPowerOfTwo? (UInt32.ofNat (window + fftSize))).map (·.toNat)

/-- The correlation of a window with a sector's symbol, one value for each lag. -/
def correlate (correlator : Correlator) (window : Array Sample) (sector : Fin 3) : Array Sample :=
  let spectrum := correlator.transform.apply .forward (padded window correlator.size)
  correlator.transform.apply .inverse
    (Array.zipWith (· * ·) spectrum (correlator.spectra.get sector).get)

/-- No lag is left out. -/
theorem le_size_correlate (correlator : Correlator) (window : Array Sample) (sector : Fin 3) :
    correlator.size ≤ (correlator.correlate window sector).size := by
  have hspectra := correlator.size_le sector
  simp only [correlate, padded, correlator.transform.size_apply, Array.size_zipWith,
    Array.size_append, Array.size_replicate]
  omega

/-- The correlation power of a window with a sector's symbol, for each of the first lags. -/
def powers (correlator : Correlator) (window : Array Sample) (sector : Fin 3) (lags : Nat)
    (h : lags ≤ correlator.size) : Vector Float32 lags :=
  let scale : Float32 := 1 / (correlator.size : Nat)
  ⟨((correlator.correlate window sector).extract 0 lags).map fun z => (z.scale scale).power, by
    have hlags := Nat.le_trans h (correlator.le_size_correlate window sector)
    simp only [Array.size_map, Array.size_extract]
    omega⟩

end Correlator

/-- A way to measure the correlation power of a window with a sector's symbol, for each of the first
lags. -/
abbrev PowerMeter :=
  (correlator : Correlator) → (window : Array Sample) → (sector : Fin 3) → (lags : Nat) →
    lags ≤ correlator.size → Vector Float32 lags

/-! ## The detector -/

/-- A correlation power averaged over calls. -/
structure PowerAverage where
  sector : Fin 3
  powers : Array Float32

/-- A detector of primary synchronization symbols. -/
structure PrimaryDetector where
  transform : Transform
  fftSize : Nat
  /-- The symbol of each sector. -/
  symbols : Vector (Array Sample) 3
  correlator? : Option Correlator
  average? : Option PowerAverage
  /-- The share of a new correlation in the average; 1 and above turn averaging off. -/
  alpha : Float32

/-- The peak of a correlation: the end of the best matching symbol, from the start of the window,
and its power over the mean power. -/
structure CorrelationPeak where
  position : Nat
  ratio : Float32

/-- One step of the search for a peak: a later lag has to be stronger. -/
def strongerLag (powers : Array Float32) (best : Nat × Float32) (lag : Nat) : Nat × Float32 :=
  let power := powers.getD lag 0
  if best.2 < power then (lag, power) else best

/-- The lag of the largest power, the first of several, with that power; lag zero with power zero
where no power is above zero. -/
def strongestLag (powers : Array Float32) : Nat × Float32 :=
  (List.range powers.size).foldl (strongerLag powers) (0, 0)

/-- The peak of a correlation of symbols of some size. -/
def CorrelationPeak.ofPowers (powers : Array Float32) (fftSize : Nat) : CorrelationPeak :=
  let (lag, peak) := strongestLag powers
  let average := mean powers
  ⟨lag + fftSize, if 0 < average then peak / average else 0⟩

namespace PrimaryDetector

/-- A detector for a transform size. -/
def ofFftSize (fftSize : Nat) (transform : Transform := .doublePrecision) :
    Except ConfigurationFault PrimaryDetector :=
  if isFftSize fftSize then
    .ok {
      transform := transform
      fftSize := fftSize
      symbols := Vector.ofFn fun sector : Fin 3 => primarySymbol sector fftSize transform
      correlator? := none
      average? := none
      alpha := 1 }
  else .error (.primaryFftSize fftSize)

/-- Choose the share of a new correlation in the average, kept between 0 and 1. -/
def setAlpha (detector : PrimaryDetector) (alpha : Float32) : PrimaryDetector :=
  { detector with alpha := if alpha < 0 then 0 else if 1 < alpha then 1 else alpha }

/-- The symbol of a sector; sectors count modulo three. -/
def symbol (detector : PrimaryDetector) (sector : Nat) : Array Sample :=
  detector.symbols[sector % 3]

/-- Forget the average. -/
def reset (detector : PrimaryDetector) : PrimaryDetector :=
  { detector with average? := none }

/-- The spectra for a size, those at hand when they fit. -/
def correlatorFor (detector : PrimaryDetector) (size : Nat) : Correlator :=
  let anew := Correlator.ofSymbols detector.transform detector.symbols size
  match detector.correlator? with
  | some correlator => if correlator.size = size then correlator else anew
  | none => anew

/-- The average after a new correlation: it starts anew with another sector or number of lags. -/
def averaged (detector : PrimaryDetector) (sector : Fin 3) (powers : Array Float32) :
    PowerAverage :=
  match detector.average? with
  | some average =>
    if average.sector = sector ∧ average.powers.size = powers.size then
      ⟨sector, Array.zipWith (fun old new => ema new old detector.alpha) average.powers powers⟩
    else ⟨sector, powers⟩
  | none => ⟨sector, powers⟩

/-- The peak of a correlation, by the average over calls where averaging is on. -/
def observe (detector : PrimaryDetector) (sector : Fin 3) (powers : Array Float32) :
    CorrelationPeak × PrimaryDetector :=
  if detector.alpha < 1 then
    let average := detector.averaged sector powers
    (.ofPowers average.powers detector.fftSize, { detector with average? := some average })
  else (.ofPowers powers detector.fftSize, detector)

/-- Find the symbol of a sector in a window. The window and its lags have to fit in the spectra. -/
def find (window : Array Sample) (sector : Nat) (powers : PowerMeter := Correlator.powers) :
    EStateM ReceiveError PrimaryDetector CorrelationPeak := fun detector =>
  if h : sector < 3 then
    if window.size < detector.fftSize then
      .error (.configuration (.primaryWindow window.size detector.fftSize)) detector
    else
      match Correlator.sizeFor? window.size detector.fftSize with
      | none => .error .outOfRange detector
      | some size =>
        let correlator := detector.correlatorFor size
        let lags := window.size - detector.fftSize + 1
        if hfit : window.size ≤ correlator.size ∧ lags ≤ correlator.size then
          let measured := (powers correlator window ⟨sector, h⟩ lags hfit.2).toArray
          let detector := { detector with correlator? := some correlator }
          let (peak, detector) := detector.observe ⟨sector, h⟩ measured
          .ok peak detector
        else .error .outOfRange detector
  else .error (.configuration (.sectorRange sector)) detector

/-- The frequency offset of a received symbol, in subcarrier spacings: the turn from its first half
to its second, compared with the symbol as sent. -/
def frequencyOffset (detector : PrimaryDetector) (received : Array Sample) (sector : Nat) :
    Float32 :=
  let products := Array.zipWith (fun x p => x * p.conj) received (detector.symbol sector)
  let half := detector.fftSize / 2
  let first := sumSamples (products.extract 0 half)
  let second := sumSamples (products.extract half products.size)
  Sample.angle (first.conj * second) / Sample.pi

end PrimaryDetector

end LteReceiver
