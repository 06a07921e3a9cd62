import LteReceiver.Downlink.Basic
import LteReceiver.Downlink.Precoding

/-!
# Feedback to the cell

What a downlink reports to its cell, from the channel estimate of the last subframe: the rank and
the precoder, together with the SINR of the precoder in use, or the rank by the condition number
alone.
-/

namespace LteReceiver

/-- The SINR of the precoder of a configuration, for spatial multiplexing. The codebook for two
layers starts with an entry that is not used. -/
def PdschConfig.sinr? {R : Type} (config : PdschConfig) (selection : PrecoderSelection R) :
    Option R :=
  if config.scheme ≠ .spatialMultiplexing then none
  else match config.layers, config.codebookIndex with
    | 1, entry => (selection.sinr.get ⟨0, Nat.zero_lt_two⟩)[entry]?
    | 2, entry + 1 => (selection.sinr.get ⟨1, Nat.one_lt_two⟩)[entry]?
    | _, _ => none

namespace Downlink

variable {σ : Type} {cell : CellConfig} {antennas : Nat}

/-- The rank and the precoder to report. Nothing is reported for one port or one antenna. -/
def rankReport? (downlink : Downlink σ cell antennas) :
    Except UnsupportedFault (Option (RankReport Float32)) :=
  if cell.nofPorts < 2 ∨ antennas < 2 then .ok none
  else do
    let selection ← selectPrecoders downlink.estimate cell.resourceElements
    return some { selection.report with
      currentSinr? := downlink.config?.bind (·.sinr? selection) }

/-- The rank by the condition number of the channel, and that number in decibels. -/
def conditionReport (downlink : Downlink σ cell antennas) :
    Except UnsupportedFault (Nat × Float32) := do
  let condition ← conditionNumber downlink.estimate cell.resourceElements
  return (rankOfCondition condition, condition)

end Downlink

end LteReceiver
