import LteReceiver.Downlink.Demodulation

/-!
# Subframes

One subframe at a time from time samples to transport blocks (`Downlink.processSubframe`):

1. the antennas are demodulated, the channel is estimated and the number of control symbols decoded;
2. the control region is searched for a message to a terminal;
3. the message is resolved, which makes the soft buffers ready;
4. the shared data are decoded and counted.

The first stage that fails ends the subframe. Acknowledgements of uplink data are read on request,
from the last subframe.
-/

namespace LteReceiver

/-! ## Results -/

/-- What a subframe held for a terminal. -/
inductive SubframeResult where
  | noMessage
  /-- Shared data: the size of the first transport block, and for each block whether it was decoded
  and what it holds. -/
  | data (tbs : Nat) (acks : List Bool) (payloads : List (Option (List UInt8)))

/-- The first entries of a list, filled up to a length. -/
def firstEntries {α : Type} (length : Nat) (fill : α) (list : List α) : List α :=
  (List.range length).map fun i => list.getD i fill

namespace Downlink

variable {σ : Type} {cell : CellConfig} {antennas : Nat} (blocks : Blocks σ cell antennas)

/-! ## Control messages -/

/-- Run a lookup of control messages. -/
def onSearch (lookup : EStateM ReceiveError (DciSearch × σ) (Option DciMessage)) :
    Action σ cell antennas (Option DciMessage) :=
  on (fun downlink => (downlink.search, downlink.blockState))
    (fun downlink (search, state) => { downlink with search := search, blockState := state })
    id lookup

/-- Look for the downlink message of a terminal. -/
def findDownlink (cfi subframe : Nat) (rnti : Rnti) :
    Action σ cell antennas (Option DciMessage) := do
  onSearch (DciSearch.findDownlink blocks.messages (← get).mode cfi subframe rnti)

/-- Look for the uplink grant of a terminal. -/
def findUplink (cfi subframe : Nat) (rnti : Rnti) : Action σ cell antennas (Option DciMessage) :=
  onSearch (DciSearch.findUplink blocks.messages cfi subframe rnti)

/-- Take the soft bits of the control region. -/
def takeSoftBits (subframe cfi : Nat) : Action σ cell antennas Unit := do
  let downlink ← get
  onBlocks .softBits (blocks.softBits downlink.grids downlink.estimate subframe cfi)

/-! ## Shared data -/

/-- Resolve a message, which makes the soft buffers ready, and keep and count its configuration. -/
def resolveMessage (message : DciMessage) (tti : UInt32) (cfi : Nat) :
    Action σ cell antennas PdschConfig := do
  let config ← on (·.harq) (fun downlink harq => { downlink with harq := harq }) id
    (resolve message tti cfi cell)
  modify fun downlink =>
    { downlink with config? := some config, metrics := downlink.metrics.countGrant }
  return config

/-- Run the decoder of shared data on the soft buffers. -/
def runSharedData (config : PdschConfig) (rnti : Rnti) : Action σ cell antennas DecodedData := do
  let downlink ← get
  on (fun downlink => (downlink.harq.buffers, downlink.blockState))
    (fun downlink (buffers, state) =>
      { downlink with
        harq := { downlink.harq with buffers := buffers }
        blockState := state })
    (.decode ∘ .sharedChannel)
    (blocks.sharedData config downlink.grids downlink.estimate rnti)

/-- Count transport blocks. -/
def count (acks : List Bool) (downlink : Downlink σ cell antennas) : Downlink σ cell antennas :=
  { downlink with metrics := downlink.metrics.countBlocks acks }

/-- Decode the shared data of a grant. Blocks the decoder says nothing about were not decoded, and
none was when it fails. -/
def decodeData (config : PdschConfig) (rnti : Rnti) :
    Action σ cell antennas SubframeResult := fun downlink =>
  let nofBlocks := config.grant.nofBlocks
  match runSharedData blocks config rnti downlink with
  | .ok decoded downlink =>
    let acks := firstEntries nofBlocks false decoded.acks
    let first := config.grant.mcs.get ⟨0, Nat.zero_lt_two⟩
    .ok (.data first.tbs acks (firstEntries nofBlocks none decoded.data))
      (downlink.count acks)
  | .error e downlink => .error e (downlink.count (.replicate nofBlocks false))

/-! ## One subframe -/

/-- Frames until the frame number of the air interface starts over. -/
def frameNumbers : UInt32 := 1024

/-- The transmission time of a subframe, counted in subframes from frame number zero. -/
def transmissionTime (frame : UInt32) (subframe : Nat) : UInt32 :=
  frame % frameNumbers * 10 + UInt32.ofNat subframe

/-- Decode what a subframe holds for a terminal. The stages work with the subframe that the
transmission time is in. -/
def processSubframe (frame : UInt32) (subframe : Nat) (inputs : List (Array Sample))
    (rnti : Rnti) : Action σ cell antennas SubframeResult := do
  if subframesPerFrame ≤ subframe then
    throw (.configuration (.subframeIndex subframe))
  let tti := transmissionTime frame subframe
  let index := (tti % 10).toNat
  let cfi ← decodeSamples blocks inputs index
  takeSoftBits blocks index cfi
  match ← findDownlink blocks cfi index rnti with
  | none => return .noMessage
  | some message =>
    let config ← resolveMessage message tti cfi
    decodeData blocks config rnti

/-! ## Acknowledgements -/

/-- Whether an uplink transmission is acknowledged, from its lowest resource block and its cyclic
shift. The acknowledgement is read from the first antenna. -/
def decodeAcknowledgement (subframe lowestPrb cyclicShift : Nat) :
    Action σ cell antennas Bool := do
  let downlink ← get
  onBlocks .acknowledgement
    (blocks.acknowledgement (downlink.grids.toArray.take 1) downlink.estimate
      (blocks.phichResource lowestPrb cyclicShift) subframe)

end Downlink

end LteReceiver
