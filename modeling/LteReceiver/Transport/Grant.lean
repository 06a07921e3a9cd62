import LteReceiver.Error
import LteReceiver.Transport.Harq

/-!
# Downlink grants

What a decoded control message means for the shared channel of its subframe: which transport blocks
are sent, over which antenna scheme and precoder, and with which redundancy versions.

`PdschConfig.ofMessage` is the meaning of a message and touches nothing. `resolve` also makes the
soft buffers of the scheduled slots ready, once it is known that the grant is supported.
-/

namespace LteReceiver

/-! ## The blocks a message enables -/

namespace DciFields

/-- The transport blocks that are sent, in their order. -/
def enabledBlocks (fields : DciFields) : List (Fin 2) :=
  (List.finRange 2).filter fun i => fields.enabled.get i

end DciFields

/-- A downlink grant: the transport blocks that are sent, moved up to the first slots. -/
structure DlGrant where
  /-- Transport blocks sent, and slots used. -/
  nofBlocks : Nat
  mcs : Vector Mcs 2
  precodingInfo : Nat
  nofPrb : Nat
deriving DecidableEq, Repr

/-- The grant of a message. Slots that are not used have no modulation and no size. -/
def DlGrant.ofFields (fields : DciFields) : DlGrant :=
  let sent := fields.enabledBlocks
  { nofBlocks := sent.length
    mcs := Vector.ofFn fun slot : Slot =>
      match sent[slot.val]? with
      | some i => fields.mcs.get i
      | none => default
    precodingInfo := fields.precodingInfo
    nofPrb := fields.nofPrb }

/-- The slots a grant uses. -/
def DlGrant.slots (grant : DlGrant) : List Slot :=
  (List.finRange 2).filter fun slot => slot.val < grant.nofBlocks

/-! ## Antenna schemes -/

/-- How a subframe is sent over several antennas. -/
inductive MimoScheme where
  | singleAntenna
  | transmitDiversity
  | spatialMultiplexing
  /-- Large-delay cyclic delay diversity. -/
  | cyclicDelayDiversity
deriving DecidableEq, Repr

/-- The scheme a format stands for. Formats 2 and 2A fall back to transmit diversity when they send
one block without precoding information. -/
def mimoScheme (format : DciFormat) (nofBlocks info nofPorts : Nat) :
    Except UnsupportedFault MimoScheme :=
  match format with
  | .format1 | .format1A => .ok (if nofPorts = 1 then .singleAntenna else .transmitDiversity)
  | .format2 =>
    .ok (if nofBlocks = 1 ∧ info = 0 then .transmitDiversity else .spatialMultiplexing)
  | .format2A =>
    .ok (if nofBlocks = 1 ∧ info = 0 then .transmitDiversity else .cyclicDelayDiversity)
  | .format0 | .format1B | .format1C | .format1D | .format2B => .error (.format format)

/-- The precoder that the precoding information of a spatially multiplexed grant names. -/
def precoderIndex (nofBlocks info : Nat) : Except UnsupportedFault Nat :=
  if nofBlocks = 1 ∧ 1 ≤ info ∧ info ≤ 4 then .ok (info - 1)
  else if nofBlocks = 2 ∧ info < 2 then .ok info
  else .error (.precoding nofBlocks info)

/-- Spatial layers of a scheme, counted in 32 bits. -/
def MimoScheme.layers (scheme : MimoScheme) (nofBlocks nofPorts : Nat) : Nat :=
  match scheme with
  | .singleAntenna => 1
  | .transmitDiversity => nofPorts
  | .spatialMultiplexing => nofBlocks % UInt32.size
  | .cyclicDelayDiversity => 2

/-! ## Redundancy versions -/

/-- The redundancy version of a radio frame, for messages that do not signal one: 0, 2, 3, 1, each
for two frames. -/
def scheduledRv (frame : UInt32) : Nat :=
  let k := (frame / 2 % 4).toNat
  (3 * k + 1) / 2 % 4

/-! ## The configuration of a subframe -/

/-- What the decoder of the shared channel has to know. -/
structure PdschConfig where
  grant : DlGrant
  cfi : Nat
  subframe : Nat
  /-- Redundancy versions of the slots. -/
  rv : Vector Nat 2
  scheme : MimoScheme
  /-- Position in the codebook of the layers, which for two layers starts with an unused entry. -/
  codebookIndex : Nat
  layers : Nat
deriving DecidableEq, Repr

namespace PdschConfig

/-- The configuration of a grant whose scheme is known. -/
def ofGrant (grant : DlGrant) (cfi subframe : Nat) (rv : Vector Nat 2) (scheme : MimoScheme)
    (nofPorts : Nat) : Except UnsupportedFault PdschConfig := do
  let pmi ← if scheme = .spatialMultiplexing then
    precoderIndex grant.nofBlocks grant.precodingInfo else .ok 0
  let layers := scheme.layers grant.nofBlocks nofPorts
  return {
    grant := grant
    cfi := cfi
    subframe := subframe
    rv := rv
    scheme := scheme
    codebookIndex := if scheme = .spatialMultiplexing ∧ layers = 2 then pmi + 1 else pmi
    layers := layers }

/-- The redundancy versions of a message at a transmission time, counted in subframes: those it
signals, or else the one scheduled for its radio frame. -/
def redundancyVersions (fields : DciFields) (tti : UInt32) : Vector Nat 2 :=
  match fields.rv? with
  | some rv => #v[rv, fields.secondRv]
  | none => .replicate 2 (scheduledRv (tti / 10))

/-- The meaning of a message received at a transmission time. -/
def ofMessage (message : DciMessage) (tti : UInt32) (cfi : Nat) (cell : CellConfig) :
    Except UnsupportedFault PdschConfig := do
  let grant := DlGrant.ofFields message.fields
  if grant.nofBlocks = 0 then
    throw .noTransportBlock
  let scheme ← mimoScheme message.format grant.nofBlocks grant.precodingInfo cell.nofPorts
  ofGrant grant cfi (tti % 10).toNat (redundancyVersions message.fields tti) scheme cell.nofPorts

end PdschConfig

/-! ## Resolving a message -/

/-- The mark a message sets on a slot. -/
def DciFields.mark (fields : DciFields) (grant : DlGrant) (slot : Slot) : BlockMark :=
  { harqProcess := fields.harqProcess
    ndi := fields.ndi.get slot
    tbs := (grant.mcs.get slot).tbs }

/-- A message without a redundancy version repeats nothing: it always carries new data. -/
def DciFields.alwaysNew (fields : DciFields) : Bool :=
  fields.rv?.isNone

/-- Make slots ready one after the other. -/
def HarqBuffers.prepareAll (harq : HarqBuffers) (fields : DciFields) (grant : DlGrant)
    (slots : List Slot) : HarqBuffers :=
  slots.foldl (fun harq slot =>
    (harq.prepare slot (fields.mark grant slot) fields.alwaysNew).2) harq

/-- Make ready the slots a grant uses. -/
def HarqBuffers.prepareFor (harq : HarqBuffers) (fields : DciFields) (grant : DlGrant) :
    HarqBuffers :=
  harq.prepareAll fields grant grant.slots

/-- The configuration of a message's subframe. The soft buffers are made ready for it, unless the
grant is not supported. -/
def resolve (message : DciMessage) (tti : UInt32) (cfi : Nat) (cell : CellConfig) :
    EStateM ReceiveError HarqBuffers PdschConfig := fun harq =>
  match PdschConfig.ofMessage message tti cfi cell with
  | .error fault => .error (.unsupported fault) harq
  | .ok config => .ok config (harq.prepareFor message.fields config.grant)

end LteReceiver
