import LteReceiver.Cell.Identity

/-!
# Cell configurations

What a receiver has to know about the cell it listens to: its bandwidth in resource blocks, its
antenna ports, its cyclic prefix and the share of the control region that acknowledgements of uplink
data take. `CellConfig.check` says which configurations a receiver can be built for.
-/

namespace LteReceiver

/-! ## Fixed quantities of the air interface -/

/-- Subcarriers in a resource block. -/
def subcarriersPerPrb : Nat := 12

/-- The most resource blocks of a carrier. -/
def maxPrb : Nat := 110

/-- Subframes in a radio frame. -/
def subframesPerFrame : Nat := 10

/-- The most antenna ports, and the most receive antennas. -/
def maxAntennas : Nat := 4

/-! ## Cyclic prefix -/

/-- The length class of the guard interval in front of every symbol. -/
inductive CyclicPrefix where
  | normal
  | extended
deriving DecidableEq, Repr

namespace CyclicPrefix

/-- A longer guard interval leaves room for fewer symbols. -/
def symbolsPerSlot : CyclicPrefix → Nat
  | normal => 7
  | extended => 6

/-- The name in reports. -/
def name : CyclicPrefix → String
  | normal => "Normal"
  | extended => "Extended"

/-- Whether the guard interval is the normal one. -/
def isNormal : CyclicPrefix → Bool
  | normal => true
  | extended => false

end CyclicPrefix

/-! ## Acknowledgement groups -/

/-- The amount of control region set aside for uplink acknowledgements. -/
inductive PhichResources where
  | oneSixth
  | half
  | one
  | two
deriving DecidableEq, Repr

/-- How many symbols the acknowledgements spread over. -/
inductive PhichDuration where
  | normal
  | extended
deriving DecidableEq, Repr

namespace PhichResources

/-- The amount as a fraction, numerator first. -/
def fraction : PhichResources → Nat × Nat
  | oneSixth => (1, 6)
  | half => (1, 2)
  | one => (1, 1)
  | two => (2, 1)

/--
Acknowledgement groups of a bandwidth: an eighth of the resource blocks times the amount, rounded
up. With the extended prefix there are twice as many.
-/
def groups (amount : PhichResources) (nofPrb : Nat) (cp : CyclicPrefix) : Nat :=
  let (num, den) := amount.fraction
  let normal := (num * nofPrb + 8 * den - 1) / (8 * den)
  match cp with
  | .normal => normal
  | .extended => 2 * normal

end PhichResources

/-! ## The cell -/

/-- The static description of a cell. -/
structure CellConfig where
  /-- Resource blocks of the carrier. -/
  nofPrb : Nat
  /-- Antenna ports of the cell, 1, 2 or 4. -/
  nofPorts : Nat
  cp : CyclicPrefix
  id : Pci
  phichResources : PhichResources
  phichDuration : PhichDuration
deriving DecidableEq, Repr

/-- Why a cell description is refused. -/
inductive CellFault where
  | prbCount (n : Nat)
  | portCount (n : Nat)
  | identity (n : Nat)
deriving DecidableEq, Repr

/-- The wording of a refusal. -/
def CellFault.message : CellFault → String
  | prbCount n => s!"Invalid number of PRBs: {n}"
  | portCount n => s!"Invalid number of antenna ports: {n}"
  | identity n => s!"Invalid cell id: {n}"

namespace CellConfig

/-- The first fault of a description: bandwidth before antenna ports before identity. -/
def check (cell : CellConfig) : Except CellFault Unit :=
  if cell.nofPrb < 6 ∨ maxPrb < cell.nofPrb then .error (.prbCount cell.nofPrb)
  else if cell.nofPorts ≠ 1 ∧ cell.nofPorts ≠ 2 ∧ cell.nofPorts ≠ 4 then
    .error (.portCount cell.nofPorts)
  else if Pci.largest < cell.id.value then .error (.identity cell.id.value)
  else .ok ()

/-- Subcarriers of the carrier, which are the resource elements of one symbol. -/
def subcarriers (cell : CellConfig) : Nat :=
  cell.nofPrb * subcarriersPerPrb

/-- Symbols of a subframe, which has two slots. -/
def symbolsPerSubframe (cell : CellConfig) : Nat :=
  2 * cell.cp.symbolsPerSlot

/-- Resource elements of a subframe on one antenna. -/
def resourceElements (cell : CellConfig) : Nat :=
  cell.nofPrb * subcarriersPerPrb * 2 * cell.cp.symbolsPerSlot

end CellConfig

end LteReceiver
