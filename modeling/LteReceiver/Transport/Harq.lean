import LteReceiver.Control.Dci
import LteReceiver.Transport.SoftBuffer

/-!
# Soft combining

A transport block that was not decoded is sent again, and its soft bits are added to those at hand.
Each of the two slots of a subframe has a soft buffer and remembers what the last grant for it said
(`BlockMark`). The same again is a retransmission and keeps the soft bits; anything else is new
data and clears them.
-/

namespace LteReceiver

/-- A slot for a transport block. -/
abbrev Slot := Fin 2

/-- The slot with a number, when there is one. -/
def Slot.ofNat? (n : Nat) : Option Slot :=
  if h : n < 2 then some ⟨n, h⟩ else none

/-- What a grant says about a transport block that tells new data from a retransmission. -/
structure BlockMark where
  harqProcess : Nat
  ndi : Bool
  tbs : Nat
deriving DecidableEq, Repr

/-- The soft buffers of both slots. -/
structure HarqBuffers where
  buffers : Vector SoftBuffer 2
  /-- The mark of the last grant for each slot. -/
  marks : Vector (Option BlockMark) 2
deriving DecidableEq

namespace HarqBuffers

/-- Both slots unused. -/
def empty : HarqBuffers :=
  ⟨.replicate 2 .empty, .replicate 2 none⟩

instance : Inhabited HarqBuffers := ⟨empty⟩

/-- The soft buffer of a slot. -/
def buffer (harq : HarqBuffers) (slot : Slot) : SoftBuffer :=
  harq.buffers[slot]

/-- The mark of the last grant for a slot. -/
def mark? (harq : HarqBuffers) (slot : Slot) : Option BlockMark :=
  harq.marks[slot]

/-- Whether a grant carries new data for a slot. Some grants always do. -/
def isNewData (harq : HarqBuffers) (slot : Slot) (mark : BlockMark) (forced : Bool) : Bool :=
  forced || harq.mark? slot != some mark

/-- Make a slot ready for a grant. The first part of the answer tells whether it was cleared. -/
def prepare (harq : HarqBuffers) (slot : Slot) (mark : BlockMark) (forced : Bool) :
    Bool × HarqBuffers :=
  let fresh := harq.isNewData slot mark forced
  let buffers :=
    if fresh then harq.buffers.set slot ((harq.buffer slot).resetFor mark.tbs) else harq.buffers
  (fresh, ⟨buffers, harq.marks.set slot (some mark)⟩)

/-- Clear both slots and forget what was remembered. -/
def resetAll (harq : HarqBuffers) : HarqBuffers :=
  ⟨harq.buffers.map SoftBuffer.reset, .replicate 2 none⟩

/-- The buffers with one of them changed. -/
def modifyBuffer (harq : HarqBuffers) (slot : Slot) (f : SoftBuffer → SoftBuffer) : HarqBuffers :=
  { harq with buffers := harq.buffers.set slot (f (harq.buffer slot)) }

end HarqBuffers

end LteReceiver
