import LteReceiver.Signal.Rotation
import LteReceiver.Sync.Secondary

/-!
# Synthetic waveforms

Signals to try a synchronizer on without a recording: uniform noise, synchronization symbols with
their cyclic prefixes, single samples set by hand, and a frequency offset over all of it. The noise
is drawn from a linear congruential sequence, so that a waveform is the same every time.
-/

namespace LteReceiver

/-- A synchronization symbol in a waveform. -/
structure Burst where
  sector : Nat
  /-- The group of a secondary symbol; a primary symbol has none. -/
  group? : Option Nat
  /-- The subframe of a secondary symbol. -/
  subframe : Nat
  /-- Where the cyclic prefix starts. -/
  start : Nat
  cpLength : Nat
  gain : Float32

/-- The description of a waveform. -/
structure Waveform where
  length : Nat
  seed : UInt32
  /-- The largest value of either part of the noise. -/
  amplitude : Float32
  bursts : List Burst
  /-- Samples that are set by hand, with their positions. -/
  spikes : List (Nat × Sample)
  /-- The frequency offset in subcarrier spacings. -/
  offset : Float32

/-- The next state of the noise. -/
def nextNoise (state : UInt32) : UInt32 :=
  state * 1664525 + 1013904223

/-- The noise of a state, between minus one and one. -/
def noiseValue (state : UInt32) : Float32 :=
  (state >>> 8).toFloat32 / 8388608 - 1

/-- Append noise to a signal. -/
def pushNoise (amplitude : Float32) : Nat → UInt32 → Array Sample → Array Sample
  | 0, _, samples => samples
  | n + 1, state, samples =>
    let first := nextNoise state
    let second := nextNoise first
    pushNoise amplitude n second
      (samples.push ⟨amplitude * noiseValue first, amplitude * noiseValue second⟩)

namespace Burst

/-- The symbol without its prefix. -/
def symbol (burst : Burst) (fftSize : Nat) : Array Sample :=
  match burst.group? with
  | some group => secondarySymbol group burst.sector burst.subframe fftSize
  | none => primarySymbol burst.sector fftSize

/-- Add a burst to a signal, as far as it lies inside. The prefix is the end of the symbol. -/
def addTo (burst : Burst) (fftSize : Nat) (samples : Array Sample) : Array Sample :=
  let symbol := burst.symbol fftSize
  (List.range (burst.cpLength + fftSize)).foldl (fun samples i =>
    samples.modify (burst.start + i) fun sample =>
      sample + (symbol.getD ((fftSize - burst.cpLength + i) % fftSize) .zero).scale burst.gain)
    samples

end Burst

/-- The samples of a waveform. -/
def Waveform.samples (waveform : Waveform) (fftSize : Nat) : Array Sample :=
  let noise := pushNoise waveform.amplitude waveform.length waveform.seed #[]
  let signal := waveform.bursts.foldl (fun samples burst => burst.addTo fftSize samples) noise
  let signal := waveform.spikes.foldl (fun samples (i, x) => samples.setIfInBounds i x) signal
  if waveform.offset == 0 then signal
  else
    let frequency := waveform.offset / (fftSize : Nat)
    ((Rotator.ofSize signal.size).correctInPlace signal frequency).1

end LteReceiver
