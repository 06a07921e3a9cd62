import LteReceiver.Downlink.Basic

/-!
# Demodulation and channel estimation

The front of the receive chain. Every antenna is demodulated into its grid; a sampling offset, which
turns the subcarriers of a symbol by an angle that grows with their number, is taken out of every
symbol; the channel is estimated; and the number of control symbols is decoded.
-/

namespace LteReceiver

namespace Downlink

variable {σ : Type} {cell : CellConfig} {antennas : Nat} (blocks : Blocks σ cell antennas)

/-! ## Demodulation -/

/-- Demodulate the samples of one antenna. -/
def demodulate (antenna : Fin antennas) (samples : Array Sample) : Action σ cell antennas Unit :=
  on (fun downlink => (downlink.grids.get antenna, downlink.blockState))
    (fun downlink (grid, state) =>
      { downlink with grids := downlink.grids.set antenna grid antenna.isLt, blockState := state })
    (.decode ∘ .stage) (blocks.demodulate samples)

/-- Demodulate the samples of all antennas, in their order. -/
def demodulateAll (inputs : List (Array Sample)) : Action σ cell antennas Unit :=
  (List.finRange antennas).forM fun antenna =>
    match inputs[antenna.val]? with
    | some samples => demodulate blocks antenna samples
    | none => pure ()

/-! ## The sampling offset -/

/-- The frequency that a sampling offset turns the subcarriers of a symbol with, in turns per
subcarrier. -/
def offsetFrequency (downlink : Downlink σ cell antennas) : Float32 :=
  downlink.sampleOffset / (downlink.fftSize : Nat)

/-- Take a frequency out of the symbols of one antenna, which are the chunks that its grid starts
with. -/
def rotateGrid (frequency : Float32) (grid : Grid cell) : StateM Rotator (Grid cell) :=
  fun rotator =>
    let turned := rotator.correctChunks cell.subcarriers frequency cell.symbolsPerSubframe
      grid.toArray
    (⟨turned.1, (rotator.size_correctChunks _ _ _ _).trans grid.size_toArray⟩, turned.2)

/-- Take a frequency out of the symbols of all antennas. -/
def rotateGrids (frequency : Float32) (grids : Grids cell antennas) :
    StateM Rotator (Grids cell antennas) :=
  grids.mapM (rotateGrid frequency)

/-- Take the sampling offset out of the grids, where there is one. -/
def removeOffset (downlink : Downlink σ cell antennas) : Downlink σ cell antennas :=
  if downlink.sampleOffset != 0 then
    let (grids, rotator) := rotateGrids downlink.offsetFrequency downlink.grids downlink.rotator
    { downlink with grids := grids, rotator := rotator }
  else downlink

/-! ## The channel and the control format -/

/-- Bring the channel estimate up to date. -/
def estimateChannel (subframe : Nat) : Action σ cell antennas Unit := do
  let downlink ← get
  on (fun downlink => (downlink.estimate, downlink.blockState))
    (fun downlink (estimate, state) =>
      { downlink with estimate := estimate, blockState := state })
    (.decode ∘ .stage) (blocks.estimate downlink.grids subframe)

/-- The number of control symbols of a subframe whose grids are at hand. -/
def decodeEstimate (subframe : Nat) : Action σ cell antennas Nat := do
  if subframesPerFrame ≤ subframe then
    throw (.configuration (.subframeIndex subframe))
  estimateChannel blocks subframe
  let downlink ← get
  let cfi ← onBlocks .controlFormat
    (blocks.controlFormat downlink.grids downlink.estimate subframe)
  if cfi < 1 ∨ maxCfi < cfi then
    throw (.decode (.cfi cfi))
  return cfi

/-- The number of control symbols of a subframe, from time samples. There has to be an input for
each antenna; further ones are ignored. -/
def decodeSamples (inputs : List (Array Sample)) (subframe : Nat) : Action σ cell antennas Nat := do
  if inputs.length < antennas then
    throw (.configuration (.inputCount antennas inputs.length))
  demodulateAll blocks inputs
  modify removeOffset
  decodeEstimate blocks subframe

end Downlink

end LteReceiver
