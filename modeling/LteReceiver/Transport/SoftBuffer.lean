import LteReceiver.Transport.CodeBlocks

/-!
# Soft buffers

The soft bits of one transport block, kept from one transmission to the next so that they can be
combined, with the checksum results of its code blocks.

Storage grows to the largest transport block seen and is never given back. Only the part that the
current division into code blocks needs is visible (`block?`); `reset` and `resetFor` clear it.
-/

namespace LteReceiver

/-- A soft buffer. -/
structure SoftBuffer where
  /-- Soft bits, for every code block there has ever been room for. -/
  storage : Array (Array Int16)
  /-- Code blocks decoded without an error. -/
  blockCrc : Array Bool
  /-- Whether the whole transport block was decoded without an error. -/
  transportCrc : Bool
  blocks : CodeBlocks
deriving DecidableEq

/-- Why a soft bit is not written. -/
inductive SoftWriteFault where
  /-- The transport block has no such code block. -/
  | noBlock
  /-- The code block has no such position. -/
  | noPosition
deriving DecidableEq, Repr

namespace SoftBuffer

/-- A buffer that was never used. -/
def empty : SoftBuffer := ⟨#[], #[], false, .empty⟩

instance : Inhabited SoftBuffer := ⟨empty⟩

/-! ## What can be seen -/

/-- The size of the current transport block. -/
def tbs (buffer : SoftBuffer) : Nat :=
  buffer.blocks.tbs

/-- Code blocks with storage of their own, visible or not. -/
def capacity (buffer : SoftBuffer) : Nat :=
  buffer.storage.size

/-- The soft bits of a code block of the current transport block. -/
def block? (buffer : SoftBuffer) (i : Nat) : Option (Array Int16) := do
  let bits ← if i < buffer.blocks.count then buffer.storage[i]? else none
  if buffer.blocks.softBits ≤ bits.size then some (bits.extract 0 buffer.blocks.softBits) else none

/-- Whether a code block was decoded without an error. -/
def crcOf (buffer : SoftBuffer) (i : Nat) : Bool :=
  buffer.blockCrc.getD i false

/-! ## Clearing -/

/-- A cleared code block of at least `size` soft bits. -/
def cleared (size : Nat) (bits : Array Int16) : Array Int16 :=
  .replicate (max bits.size size) 0

/-- Storage with its first blocks cleared and large enough for a division. Blocks beyond it stay as
they are. -/
def clearedStorage (storage : Array (Array Int16)) (blocks : CodeBlocks) : Array (Array Int16) :=
  .ofFn fun i : Fin (max storage.size blocks.count) =>
    let bits := storage.getD i #[]
    if i.val < blocks.count then cleared blocks.softBits bits else bits

/-- Make ready for a new transport block. -/
def resetFor (buffer : SoftBuffer) (tbs : Nat) : SoftBuffer :=
  let blocks := CodeBlocks.ofTbs tbs
  { storage := clearedStorage buffer.storage blocks
    blockCrc := .replicate blocks.count false
    transportCrc := false
    blocks := blocks }

/-- Clear everything and forget the transport block. -/
def reset (buffer : SoftBuffer) : SoftBuffer :=
  { storage := buffer.storage.map (cleared 0)
    blockCrc := #[]
    transportCrc := false
    blocks := .empty }

/-! ## Writing -/

/-- Set a soft bit of a visible code block. -/
def write (buffer : SoftBuffer) (i position : Nat) (value : Int16) :
    Except SoftWriteFault SoftBuffer :=
  if buffer.blocks.count ≤ i then .error .noBlock
  else if buffer.blocks.softBits ≤ position then .error .noPosition
  else .ok { buffer with
    storage := buffer.storage.modify i fun bits => bits.setIfInBounds position value }

/-- Set the checksum result of a code block; there is nothing to set where there is no block. -/
def setBlockCrc (buffer : SoftBuffer) (i : Nat) (ok : Bool) : SoftBuffer :=
  { buffer with blockCrc := buffer.blockCrc.setIfInBounds i ok }

/-- Set the checksum result of the transport block. -/
def setTransportCrc (buffer : SoftBuffer) (ok : Bool) : SoftBuffer :=
  { buffer with transportCrc := ok }

end SoftBuffer

end LteReceiver
