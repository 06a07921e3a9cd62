import LteReceiver.Downlink.Feedback
import LteReceiver.Downlink.Subframe
import LteReceiver.Sync.Synchronizer

/-!
# The receiver

A synchronizer that finds a cell and the downlink of a cell, side by side. `Receiver.acquire` is one
attempt to find a cell, and says what is known after it: an identity and a subframe are reported
only if this very attempt decoded them.
-/

namespace LteReceiver

/-! ## Acquisition -/

/-- What is known after an attempt to find a cell. -/
structure Acquisition where
  outcome : SearchOutcome
  /-- The identity, if the attempt decoded one. -/
  cellId? : Option Pci
  /-- The subframe of the primary symbol, known together with the identity. -/
  subframe? : Option Nat
  /-- The frequency offset in subcarrier spacings, averaged over attempts. -/
  frequencyOffset : Float32
  cp : CyclicPrefix

namespace Synchronizer

/-- What is known after a search, given its outcome and the synchronizer it leaves. -/
def acquisition (s : Synchronizer) (outcome : SearchOutcome) : Acquisition :=
  let cellId? := if outcome.secondaryStep = .completed then s.cellId? else none
  { outcome := outcome
    cellId? := cellId?
    subframe? := cellId?.map fun _ => s.subframe
    frequencyOffset := s.frequencyOffset
    cp := s.cp }

/-- Look for the cell of the chosen sector in a signal from an offset on. -/
def acquire (samples : Array Sample) (offset : Nat)
    (instruments : Instruments := .singlePrecision) :
    EStateM ReceiveError Synchronizer Acquisition := do
  let outcome ← find samples offset instruments
  return (← get).acquisition outcome

end Synchronizer

/-! ## The receiver -/

/-- A synchronizer and the downlink of a cell, with blocks over states of type `σ`. -/
structure Receiver (σ : Type) (cell : CellConfig) (antennas : Nat) where
  synchronizer : Synchronizer
  downlink : Downlink σ cell antennas

namespace Receiver

variable {σ : Type} {cell : CellConfig} {antennas : Nat}

/-- Run an action on the synchronizer. -/
def onSynchronizer {α : Type} (action : EStateM ReceiveError Synchronizer α) :
    EStateM ReceiveError (Receiver σ cell antennas) α := fun receiver =>
  match action receiver.synchronizer with
  | .ok answer s => .ok answer { receiver with synchronizer := s }
  | .error e s => .error e { receiver with synchronizer := s }

/-- Run an action on the downlink. -/
def onDownlink {α : Type} (action : Downlink.Action σ cell antennas α) :
    EStateM ReceiveError (Receiver σ cell antennas) α := fun receiver =>
  match action receiver.downlink with
  | .ok answer d => .ok answer { receiver with downlink := d }
  | .error e d => .error e { receiver with downlink := d }

/-- Look for the cell of the chosen sector in a signal from an offset on. -/
def acquire (samples : Array Sample) (offset : Nat)
    (instruments : Instruments := .singlePrecision) :
    EStateM ReceiveError (Receiver σ cell antennas) Acquisition :=
  onSynchronizer (Synchronizer.acquire samples offset instruments)

/-- Keep the search spaces of a terminal at hand. -/
def setTarget (receiver : Receiver σ cell antennas) (rnti : Rnti) :
    Except ConfigurationFault (Receiver σ cell antennas) :=
  (receiver.downlink.setRnti rnti).map fun downlink => { receiver with downlink := downlink }

/-- Decode what a subframe holds for a terminal. -/
def processSubframe (blocks : Blocks σ cell antennas) (frame : UInt32) (subframe : Nat)
    (inputs : List (Array Sample)) (rnti : Rnti) :
    EStateM ReceiveError (Receiver σ cell antennas) SubframeResult :=
  onDownlink (Downlink.processSubframe blocks frame subframe inputs rnti)

/-- The rank and the precoder to report to the cell. -/
def rankReport? (receiver : Receiver σ cell antennas) :
    Except UnsupportedFault (Option (RankReport Float32)) :=
  receiver.downlink.rankReport?

/-- Forget what there is to combine with. -/
def resetDownlink (receiver : Receiver σ cell antennas) : Receiver σ cell antennas :=
  { receiver with downlink := receiver.downlink.reset }

/-- Start the averages of the synchronizer over. -/
def resetSynchronizer (receiver : Receiver σ cell antennas) : Receiver σ cell antennas :=
  { receiver with synchronizer := receiver.synchronizer.reset }

/-- The counters of the downlink. -/
def metrics (receiver : Receiver σ cell antennas) : DownlinkMetrics :=
  receiver.downlink.metrics

end Receiver

end LteReceiver
