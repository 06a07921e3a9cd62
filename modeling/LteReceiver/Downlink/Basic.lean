import LteReceiver.Downlink.Blocks
import LteReceiver.Ofdm
import LteReceiver.Signal.Rotation

/-!
# The downlink of a cell

What a receiver keeps from subframe to subframe: the lookups of control messages, the soft buffers,
the last grids and channel estimate, the configuration of the last grant and counters. The blocks
that do the signal processing are not part of it, only their state is.

An `Action` answers or fails, and leaves a downlink in either case. What was done before a failure
stays done.
-/

namespace LteReceiver

/-! ## Counters -/

/-- What was received so far. The counts have no bound here; no subframe adds more than two to any
of them. -/
structure DownlinkMetrics where
  /-- Grants found and resolved. -/
  grants : Nat
  /-- Transport blocks of these. -/
  blocks : Nat
  /-- Transport blocks that were not decoded. -/
  errors : Nat
deriving DecidableEq, Repr

instance : Inhabited DownlinkMetrics := ⟨⟨0, 0, 0⟩⟩

namespace DownlinkMetrics

/-- Count a grant. -/
def countGrant (metrics : DownlinkMetrics) : DownlinkMetrics :=
  { metrics with grants := metrics.grants + 1 }

/-- Count transport blocks, decoded or not. -/
def countBlocks (metrics : DownlinkMetrics) (acks : List Bool) : DownlinkMetrics :=
  { metrics with
    blocks := metrics.blocks + acks.length
    errors := metrics.errors + acks.count false }

end DownlinkMetrics

/-! ## The state -/

/-- The downlink of a cell, with blocks over states of type `σ`. -/
structure Downlink (σ : Type) (cell : CellConfig) (antennas : Nat) where
  /-- The state of the blocks. -/
  blockState : σ
  search : DciSearch
  harq : HarqBuffers
  grids : Grids cell antennas
  estimate : CellEstimate cell antennas
  fftSize : Nat
  rotator : Rotator
  /-- The sampling offset that is taken out of every symbol, in samples. -/
  sampleOffset : Float32
  mode : TransmissionMode
  /-- The terminal whose search spaces are at hand. -/
  rnti? : Option Rnti
  /-- The configuration of the last grant. -/
  config? : Option PdschConfig
  metrics : DownlinkMetrics

namespace Downlink

variable {σ : Type} {cell : CellConfig} {antennas : Nat}

/-- The downlink of a cell before the first subframe. The cell is checked first, then the number of
antennas. -/
def ofCell (cell : CellConfig) (antennas : Nat) (blockState : σ) :
    Except ConfigurationFault (Downlink σ cell antennas) :=
  match cell.check with
  | .error fault => .error (.cell fault)
  | .ok () =>
    if antennas = 0 ∨ maxAntennas < antennas then .error (.antennaCount antennas)
    else match fftSizeOf? cell.nofPrb with
      | none => .error (.noFftSize cell.nofPrb)
      | some fftSize =>
        .ok {
          blockState := blockState
          search := .ofCell cell
          harq := .empty
          grids := .replicate antennas (.silent cell)
          estimate := .silent
          fftSize := fftSize
          rotator := .ofSize cell.subcarriers
          sampleOffset := 0
          mode := .tm1
          rnti? := none
          config? := none
          metrics := default }

/-! ## Settings -/

/-- Keep the search spaces of a terminal at hand. -/
def setRnti (downlink : Downlink σ cell antennas) (rnti : Rnti) :
    Except ConfigurationFault (Downlink σ cell antennas) :=
  if rnti.isAssigned then
    .ok { downlink with search := downlink.search.setRnti rnti, rnti? := some rnti }
  else .error .rntiUnset

/-- Choose the transmission mode, which decides on the formats searched for. -/
def setMode (downlink : Downlink σ cell antennas) (mode : TransmissionMode) :
    Downlink σ cell antennas :=
  { downlink with mode := mode }

/-- Choose the sampling offset, in samples. -/
def setSampleOffset (downlink : Downlink σ cell antennas) (offset : Float32) :
    Downlink σ cell antennas :=
  { downlink with sampleOffset := offset }

/-- Start over with the next grant: nothing to combine with, no parked uplink grant and no
configuration. -/
def reset (downlink : Downlink σ cell antennas) : Downlink σ cell antennas :=
  { downlink with
    harq := downlink.harq.resetAll
    search := downlink.search.clearPending
    config? := none }

/-- The first control channel element of the last downlink message. -/
def lastCce (downlink : Downlink σ cell antennas) : Nat :=
  downlink.search.state.lastDownlink.firstCce

/-! ## Running blocks -/

/-- What can happen to a downlink: an answer or an error, and the downlink afterwards. -/
abbrev Action (σ : Type) (cell : CellConfig) (antennas : Nat) :=
  EStateM ReceiveError (Downlink σ cell antennas)

/-- Run an action on a part of a downlink. -/
def on {τ ε α : Type} (part : Downlink σ cell antennas → τ)
    (update : Downlink σ cell antennas → τ → Downlink σ cell antennas) (fault : ε → ReceiveError)
    (action : EStateM ε τ α) : Action σ cell antennas α := fun downlink =>
  match action (part downlink) with
  | .ok answer rest => .ok answer (update downlink rest)
  | .error e rest => .error (fault e) (update downlink rest)

/-- Run a block that changes nothing but its own state. -/
def onBlocks {α : Type} (fault : ExternalError → DecodeFault) (action : EStateM ExternalError σ α) :
    Action σ cell antennas α :=
  on (·.blockState) (fun downlink state => { downlink with blockState := state })
    (.decode ∘ fault) action

end Downlink

end LteReceiver
