import LteReceiver.Cell.Config
import LteReceiver.Control.BlindSearch
import LteReceiver.Downlink.ChannelEstimate
import LteReceiver.Transport.Grant

/-!
# Processing blocks

The signal processing of a subframe is left to six blocks, which a receiver calls in their order:
demodulation, channel estimation, the format of the control region, control messages, shared data
and acknowledgements. `Blocks` is what a receiver asks of them.

The blocks share a state of type `σ`. A block that fills something in for the receiver runs over the
pair of that and its own state. It can fail, and what it has changed until then stays changed.

A grid and a channel estimate have the sizes of their cell as part of their types, so a block can
fill them in but not change their shape. For a grid that is how it is handed out, as a buffer of
fixed length; an estimator could in principle leave arrays of other lengths behind, and is assumed
not to.
-/

namespace LteReceiver

/-! ## What the blocks work on -/

/-- The resource grid of a subframe on one antenna, as one buffer: the resource elements of each
symbol, one for each subcarrier, follow those of the symbol before. -/
abbrev Grid (cell : CellConfig) := Vector Sample cell.resourceElements

/-- The resource grids of a subframe on all antennas. -/
abbrev Grids (cell : CellConfig) (antennas : Nat) := Vector (Grid cell) antennas

/-- A grid without power. -/
def Grid.silent (cell : CellConfig) : Grid cell :=
  .replicate _ .zero

/-- The estimate of the channel from a cell. -/
abbrev CellEstimate (cell : CellConfig) (antennas : Nat) :=
  ChannelEstimate Float32 cell.nofPorts antennas cell.resourceElements

/-- What the decoder of shared data answers. -/
structure DecodedData where
  /-- The data of the transport blocks that were decoded. -/
  data : List (Option (List UInt8))
  /-- Whether each transport block was decoded. -/
  acks : List Bool

/-- The place of an acknowledgement: its group, and its sequence in the group. -/
structure PhichResource where
  group : Nat
  sequence : Nat
deriving DecidableEq, Repr

/-! ## The blocks -/

/-- The processing blocks of a receiver for a cell. -/
structure Blocks (σ : Type) (cell : CellConfig) (antennas : Nat) where
  /-- From time samples to the grid of one antenna. -/
  demodulate : Array Sample → EStateM ExternalError (Grid cell × σ) Unit
  /-- Bring the channel estimate up to date for a subframe. -/
  estimate : Grids cell antennas → Nat → EStateM ExternalError (CellEstimate cell antennas × σ) Unit
  /-- The number of control symbols of a subframe. -/
  controlFormat : Grids cell antennas → CellEstimate cell antennas → Nat →
    EStateM ExternalError σ Nat
  /-- Take the soft bits of the control region, given the subframe and its control symbols. -/
  softBits : Grids cell antennas → CellEstimate cell antennas → Nat → Nat →
    EStateM ExternalError σ Unit
  /-- Decode control messages from the soft bits. -/
  messages : DciDecoder σ
  /-- Decode shared data into the soft buffers. -/
  sharedData : PdschConfig → Grids cell antennas → CellEstimate cell antennas → Rnti →
    EStateM ExternalError (Vector SoftBuffer 2 × σ) DecodedData
  /-- Where the acknowledgement of an uplink allocation stands, from its lowest resource block and
  its cyclic shift. -/
  phichResource : Nat → Nat → PhichResource
  /-- Whether an uplink transmission is acknowledged in a subframe. -/
  acknowledgement : Array (Grid cell) → CellEstimate cell antennas → PhichResource → Nat →
    EStateM ExternalError σ Bool

end LteReceiver
