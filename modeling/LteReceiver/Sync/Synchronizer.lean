import LteReceiver.Signal.Rotation
import LteReceiver.Sync.Secondary

/-!
# Cell synchronization

From unsynchronized samples to the timing, the frequency offset, the cyclic prefix and the identity
of a cell of a chosen sector. One search (`Synchronizer.find`) looks for the primary symbol in a
frame of samples; when its peak reaches the threshold, three further steps are tried, each of them
on its own:

1. the frequency offset, from the primary symbol;
2. the cyclic prefix, from the two symbols that end with the primary one;
3. the group and the subframe, from the secondary symbol, whose place depends on the prefix.

What a step finds is kept from search to search: averages of the peak, of the offset and of the
evidence for either prefix, and the last group and subframe.

All samples are taken with `slice?`, which has no answer outside the signal; a search that needed
such samples would end with `ReceiveError.outOfRange`.

A search is an action on the synchronizer: it answers or fails, and leaves a synchronizer in either
case.

The numbers a search goes by are measured with `Instruments`. Where it looks, what it concludes and
what it keeps is the same with any of them; the receiver measures in single precision
(`Instruments.singlePrecision`), with the transforms that it has.
-/

namespace LteReceiver

/-- The part of a signal from one position up to another, when it lies inside. -/
def slice? (samples : Array Sample) (first last : Nat) : Option (Array Sample) :=
  if first ≤ last ∧ last ≤ samples.size then some (samples.extract first last) else none

/-! ## Measurements -/

/-- The correlation of a prefix with the end of its symbol, which it is a copy of, and the energy of
the prefix. -/
def prefixMatch (tail guardPart : Array Sample) : Float32 × Float32 :=
  ((correlation tail guardPart).re, (guardPart.size : Nat) * averagePower guardPart)

/-- What measures the samples that a search looks at. -/
structure Instruments where
  /-- The transforms of the synchronizers that are made for it. -/
  transform : Transform
  /-- The correlation power of a window with the primary symbol at each lag. -/
  powers : PowerMeter
  /-- The frequency offset of a received primary symbol. -/
  offset : PrimaryDetector → (received : Array Sample) → (sector : Nat) → Float32
  /-- The correlation of a prefix with the end of its symbol, and the energy of the prefix. -/
  guard : (tail guardPart : Array Sample) → Float32 × Float32
  /-- The shifts of a received secondary symbol. -/
  shifts : ShiftMeter

/-- Measurements in single precision by given transforms. -/
def Instruments.ofTransform (transform : Transform) : Instruments where
  transform := transform
  powers := Correlator.powers
  offset := PrimaryDetector.frequencyOffset
  guard := prefixMatch
  shifts := similarShifts transform

/-- The instruments of the receiver. -/
def Instruments.singlePrecision : Instruments :=
  .ofTransform .doublePrecision

/-! ## Settings -/

/-- How a synchronizer searches. -/
structure SyncSettings where
  fftSize : Nat
  /-- Samples looked at in one search. -/
  frameSize : Nat
  /-- The ratio of peak to mean power that counts as a detection. -/
  threshold : Float32
  algorithm : SecondaryAlgorithm
  detectCp : Bool
  correctOffset : Bool
  secondaryEnabled : Bool
  /-- The share of a new correlation in the average over searches. -/
  alpha : Float32

/-- The usual threshold. -/
def defaultThreshold : Float32 := 15

instance : Inhabited SyncSettings :=
  ⟨{ fftSize := 128
     frameSize := 9600
     threshold := defaultThreshold
     algorithm := default
     detectCp := true
     correctOffset := true
     secondaryEnabled := true
     alpha := 1 }⟩

/-- The most samples of one search, 20 milliseconds at 15.36 MHz. -/
def maxFrameSize : Nat := 307200

/-! ## Outcomes -/

/-- How a step of a search ended. -/
inductive StepOutcome where
  | completed
  /-- The peak is too close to the start of the signal. -/
  | insufficientSamples
  /-- The step was tried and found nothing. -/
  | failed
  | disabled
  /-- The peak did not reach the threshold. -/
  | notAttempted
deriving DecidableEq, Repr

/-- The name in reports. -/
def StepOutcome.name : StepOutcome → String
  | completed => "completed"
  | insufficientSamples => "insufficient_samples"
  | failed => "failed"
  | disabled => "disabled"
  | notAttempted => "not_attempted"

/-- What a search found. -/
structure SearchOutcome where
  detected : Bool
  /-- The end of the primary symbol, from the offset of the search. -/
  position : Nat
  /-- The peak power over the mean power. -/
  ratio : Float32
  offsetStep : StepOutcome
  cpStep : StepOutcome
  secondaryStep : StepOutcome

/-! ## The synchronizer -/

/-- A synchronizer and what it knows of a cell. -/
structure Synchronizer where
  fftSize : Nat
  frameSize : Nat
  primary : PrimaryDetector
  secondary : SecondaryDetector
  rotator : Rotator
  /-- The sector searched for. -/
  sector? : Option (Fin 3)
  /-- The group found last. -/
  group? : Option Nat
  /-- The subframe of the secondary symbol read last. -/
  subframe : Nat
  cp : CyclicPrefix
  threshold : Float32
  detectCp : Bool
  secondaryEnabled : Bool
  correctOffset : Bool
  algorithm : SecondaryAlgorithm
  lastPeak : Float32
  averagePeak : Float32
  /-- The frequency offset in subcarrier spacings, averaged. -/
  frequencyOffset : Float32
  /-- The evidence for the normal prefix, averaged. -/
  normalEvidence : Float32
  /-- The evidence for the extended prefix, averaged. -/
  extendedEvidence : Float32

namespace Synchronizer

/-- The share of a new peak in the average. -/
def peakAlpha : Float32 := 0.2

/-- The share of a new frequency offset in the average. -/
def offsetAlpha : Float32 := 0.01

/-- The share of new evidence for a prefix in the average. -/
def cpAlpha : Float32 := 0.2

/-- A synchronizer for a frame size and a transform size. -/
def ofSizes (frameSize fftSize : Nat) (transform : Transform := .doublePrecision) :
    Except ConfigurationFault Synchronizer := do
  if !isFftSize fftSize then
    throw (.fftSize fftSize)
  if maxFrameSize < frameSize || frameSize < fftSize then
    throw (.frameSize frameSize fftSize)
  let primary ← PrimaryDetector.ofFftSize fftSize transform
  let secondary ← SecondaryDetector.ofFftSize fftSize
  return {
    fftSize := fftSize
    frameSize := frameSize
    primary := primary
    secondary := secondary
    rotator := .ofSize fftSize
    sector? := none
    group? := none
    subframe := 0
    cp := .normal
    threshold := defaultThreshold
    detectCp := true
    secondaryEnabled := true
    correctOffset := true
    algorithm := default
    lastPeak := 0
    averagePeak := 0
    frequencyOffset := 0
    normalEvidence := 0
    extendedEvidence := 0 }

/-! ### Choices -/

/-- Choose the sector to search for. -/
def setSector (s : Synchronizer) (sector : Nat) : Except ConfigurationFault Synchronizer :=
  if h : sector < 3 then
    .ok { s with sector? := some ⟨sector, h⟩, secondary := s.secondary.setSector sector }
  else .error (.sectorRange sector)

/-- Choose the threshold. -/
def setThreshold (s : Synchronizer) (threshold : Float32) : Synchronizer :=
  { s with threshold := threshold }

/-- Turn the reading of secondary symbols on or off. -/
def setSecondaryEnabled (s : Synchronizer) (enabled : Bool) : Synchronizer :=
  { s with secondaryEnabled := enabled }

/-- Turn the correction of the frequency offset before that on or off. -/
def setCorrectOffset (s : Synchronizer) (enabled : Bool) : Synchronizer :=
  { s with correctOffset := enabled }

/-- Turn the detection of the prefix on or off. -/
def setDetectCp (s : Synchronizer) (enabled : Bool) : Synchronizer :=
  { s with detectCp := enabled }

/-- Choose the share of a new correlation in the average over searches. -/
def setAlpha (s : Synchronizer) (alpha : Float32) : Synchronizer :=
  { s with primary := s.primary.setAlpha alpha }

/-- Choose the prefix to go on with. -/
def setCp (s : Synchronizer) (cp : CyclicPrefix) : Synchronizer :=
  { s with cp := cp }

/-- Choose how secondary symbols are compared. -/
def setAlgorithm (s : Synchronizer) (algorithm : SecondaryAlgorithm) : Synchronizer :=
  { s with algorithm := algorithm }

/-- A synchronizer with given settings. -/
def ofSettings (settings : SyncSettings) (transform : Transform := .doublePrecision) :
    Except ConfigurationFault Synchronizer := do
  let s ← ofSizes settings.frameSize settings.fftSize transform
  return s.setThreshold settings.threshold
    |>.setAlgorithm settings.algorithm
    |>.setDetectCp settings.detectCp
    |>.setCorrectOffset settings.correctOffset
    |>.setSecondaryEnabled settings.secondaryEnabled
    |>.setAlpha settings.alpha

/-! ### Knowledge -/

/-- The identity of the cell, once both its parts are known. -/
def cellId? (s : Synchronizer) : Option Pci := do
  let group ← s.group?
  let sector ← s.sector?
  Pci.ofParts? group sector

/-- Forget the averages of the peak and of the evidence for a prefix, and that of the
correlation. -/
def reset (s : Synchronizer) : Synchronizer :=
  { s with
    averagePeak := 0
    normalEvidence := 0
    extendedEvidence := 0
    primary := s.primary.reset }

/-! ### The frequency offset -/

/-- Measure the frequency offset on the primary symbol that ends at a position. -/
def measureOffset (s : Synchronizer) (samples : Array Sample) (sector : Fin 3) (peak : Nat)
    (instruments : Instruments) : Option (StepOutcome × Synchronizer) :=
  if s.fftSize ≤ peak then do
    let symbol ← slice? samples (peak - s.fftSize) peak
    let offset := instruments.offset s.primary symbol sector
    return (.completed, { s with frequencyOffset := ema offset s.frequencyOffset offsetAlpha })
  else some (.insufficientSamples, s)

/-! ### The cyclic prefix -/

/-- The match of a prefix at a position with the end of its symbol. -/
def guardMatch (samples : Array Sample) (fftSize cpLength first : Nat)
    (instruments : Instruments) : Option (Float32 × Float32) := do
  let guardPart ← slice? samples first (first + cpLength)
  let tail ← slice? samples (first + fftSize) (first + fftSize + cpLength)
  return instruments.guard tail guardPart

/-- A correlation relative to the energy, or nothing where there is no energy. -/
def relativeMatch (total : Float32) (found : Float32 × Float32) : Float32 :=
  if 0 < found.2 then total + found.1 / found.2 else total

/-- The evidence for a prefix length in the two symbols that end at a position: the mean relative
correlation of both, and the plain correlation of the second. -/
def cpEvidence (samples : Array Sample) (fftSize cpLength peak : Nat)
    (instruments : Instruments) : Option (Float32 × Float32) := do
  let span := fftSize + cpLength
  let start ← if 2 * span ≤ peak then some (peak - 2 * span) else none
  let first ← guardMatch samples fftSize cpLength start instruments
  let second ← guardMatch samples fftSize cpLength (start + span) instruments
  return (relativeMatch (relativeMatch 0 first) second / 2, second.1)

/-- Decide for a prefix: by the averaged evidence, and by the plain correlations where that is
undecided. -/
def chooseCp (normal extended normalMatch extendedMatch : Float32) : CyclicPrefix :=
  if extended < normal then .normal
  else if normal < extended then .extended
  else if extendedMatch < normalMatch then .normal
  else .extended

/-- Decide for the prefix of the two symbols that end at a position. The decision is the answer;
only the averages of the evidence are kept. -/
def decideCp (s : Synchronizer) (samples : Array Sample) (peak : Nat)
    (instruments : Instruments := .singlePrecision) : Option (CyclicPrefix × Synchronizer) := do
  let (normal, normalMatch) ←
    cpEvidence samples s.fftSize (normalCp 1 s.fftSize) peak instruments
  let (extended, extendedMatch) ←
    cpEvidence samples s.fftSize (extendedCp s.fftSize) peak instruments
  let s := { s with
    normalEvidence := ema normal s.normalEvidence cpAlpha
    extendedEvidence := ema extended s.extendedEvidence cpAlpha }
  return (chooseCp s.normalEvidence s.extendedEvidence normalMatch extendedMatch, s)

/-- Update the prefix, where there is room for two symbols of either kind. -/
def updateCp (s : Synchronizer) (samples : Array Sample) (peak : Nat)
    (instruments : Instruments) : Option (StepOutcome × Synchronizer) :=
  if !s.detectCp then some (.disabled, s)
  else if 2 * (s.fftSize + extendedCp s.fftSize) ≤ peak then do
    let (cp, s) ← s.decideCp samples peak instruments
    return (.completed, s.setCp cp)
  else some (.insufficientSamples, s)

/-! ### The secondary symbol -/

/-- Keep what a secondary symbol was read as. -/
def learn (s : Synchronizer) (found : SecondaryMatch) : StepOutcome × Synchronizer :=
  let s := { s with subframe := subframeOf found.first found.second }
  match groupOf? found.first found.second with
  | some group => (.completed, { s with group? := some group })
  | none => (.failed, s)

/-- Undo the frequency offset on a symbol, when that is wanted and there is one. -/
def straighten (s : Synchronizer) (symbol : Array Sample) : Array Sample × Synchronizer :=
  if s.correctOffset && s.frequencyOffset != 0 then
    let (symbol, rotator) :=
      s.rotator.correctInPlace symbol (-s.frequencyOffset / (s.fftSize : Nat))
    (symbol, { s with rotator := rotator })
  else (symbol, s)

/-- Read the secondary symbol in front of the primary one that ends at a position. -/
def readSecondary (s : Synchronizer) (samples : Array Sample) (peak : Nat)
    (instruments : Instruments) : Option (StepOutcome × Synchronizer) :=
  let s := { s with group? := none }
  let distance := 2 * s.fftSize + s.cp.samples s.fftSize
  if distance ≤ peak then do
    let symbol ← slice? samples (peak - distance) (peak - distance + s.fftSize)
    let (symbol, s) := s.straighten symbol
    match s.secondary.detect symbol s.algorithm instruments.shifts with
    | .ok found => return s.learn found
    | .error _ => return (.failed, s)
  else some (.insufficientSamples, s)

/-- Read the secondary symbol, when that is turned on. -/
def updateIdentity (s : Synchronizer) (samples : Array Sample) (peak : Nat)
    (instruments : Instruments) : Option (StepOutcome × Synchronizer) :=
  if s.secondaryEnabled then s.readSecondary samples peak instruments else some (.disabled, s)

/-! ### Searching -/

/-- Keep a correlation peak. -/
def notePeak (s : Synchronizer) (primary : PrimaryDetector) (ratio : Float32) : Synchronizer :=
  { s with
    primary := primary
    lastPeak := ratio
    averagePeak := ema ratio s.averagePeak peakAlpha }

/-- The three steps after a detection, with the primary symbol ending at a position. -/
def refine (s : Synchronizer) (samples : Array Sample) (sector : Fin 3) (peak : Nat)
    (instruments : Instruments) :
    Option ((StepOutcome × StepOutcome × StepOutcome) × Synchronizer) := do
  let (offsetStep, s) ← s.measureOffset samples sector peak instruments
  let (cpStep, s) ← s.updateCp samples peak instruments
  let (secondaryStep, s) ← s.updateIdentity samples peak instruments
  return ((offsetStep, cpStep, secondaryStep), s)

/-- Search a signal from an offset on for the chosen sector. -/
def find (samples : Array Sample) (offset : Nat)
    (instruments : Instruments := .singlePrecision) :
    EStateM ReceiveError Synchronizer SearchOutcome := fun s =>
  match s.sector? with
  | none => .error (.configuration .sectorUnset) s
  | some sector =>
    if samples.size < offset + s.fftSize then
      .error (.configuration (.searchSpan samples.size offset s.fftSize)) s
    else
      match slice? samples offset (min samples.size (offset + s.frameSize)) with
      | none => .error .outOfRange s
      | some window =>
        match PrimaryDetector.find window sector instruments.powers s.primary with
        | .error e primary => .error e { s with primary := primary }
        | .ok peak primary =>
          let s := s.notePeak primary peak.ratio
          if s.threshold ≤ peak.ratio then
            match s.refine samples sector (offset + peak.position) instruments with
            | none => .error .outOfRange s
            | some ((offsetStep, cpStep, secondaryStep), s) =>
              .ok ⟨true, peak.position, peak.ratio, offsetStep, cpStep, secondaryStep⟩ s
          else
            .ok ⟨false, peak.position, peak.ratio, .notAttempted, .notAttempted, .notAttempted⟩ s

end Synchronizer

end LteReceiver
