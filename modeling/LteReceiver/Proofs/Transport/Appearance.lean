import LteReceiver.Proofs.Agreement
import LteReceiver.Proofs.Transport.Resolve
import LteReceiver.Proofs.Transport.SoftBits

/-!
# Soft buffers that look alike

A soft buffer can hold more than it shows: code blocks of earlier transport blocks stay in its
storage. Two buffers with room that show the same (`SoftBuffer.Alike`) show the same after every
operation (`SoftBuffer.Alike.operateAll`), so what they hold beyond that never comes to light. Every
buffer looks like an unused one once it is cleared (`SoftBuffer.alike_reset_empty`), and any two
look alike once they are made ready for the same transport block (`SoftBuffer.alike_resetFor`).

The two slots of a subframe follow their buffers (`HarqBuffers.Alike`): a message means the same to
slots with the same marks whose buffers look alike (`agree_resolve`), and cleared slots look unused
(`HarqBuffers.alike_resetAll_empty`).
-/

namespace LteReceiver

/-- What can be done to a soft buffer. -/
inductive SoftOperation where
  | write (write : SoftWrite)
  | resetFor (tbs : Nat)
  | reset
deriving DecidableEq, Repr

namespace SoftBuffer

/-- The buffer after an operation. -/
def operate (buffer : SoftBuffer) : SoftOperation → SoftBuffer
  | .write write => buffer.apply write
  | .resetFor tbs => buffer.resetFor tbs
  | .reset => buffer.reset

/-- The buffer after operations, the first one first. -/
def operateAll (buffer : SoftBuffer) (operations : List SoftOperation) : SoftBuffer :=
  operations.foldl operate buffer

/-- Two buffers show the same: the division, every visible code block and all checksum results. -/
structure LooksLike (first second : SoftBuffer) : Prop where
  blocks : first.blocks = second.blocks
  block? : ∀ i, first.block? i = second.block? i
  crcOf : ∀ i, first.crcOf i = second.crcOf i
  transportCrc : first.transportCrc = second.transportCrc

/-- Two buffers have room and show the same. -/
structure Alike (first second : SoftBuffer) : Prop where
  first_room : first.HasRoom
  second_room : second.HasRoom
  looks : first.LooksLike second

theorem LooksLike.tbs {first second : SoftBuffer} (h : first.LooksLike second) :
    first.tbs = second.tbs :=
  congrArg CodeBlocks.tbs h.blocks

/-! ## What is shown after an operation -/

theorem HasRoom.operate {buffer : SoftBuffer} (h : buffer.HasRoom) (operation : SoftOperation) :
    (buffer.operate operation).HasRoom := by
  cases operation with
  | write write => exact h.apply write
  | resetFor tbs => exact hasRoom_resetFor buffer tbs
  | reset => exact hasRoom_reset buffer

theorem extract_setIfInBounds (bits : Array Int16) (position length : Nat) (value : Int16) :
    (bits.setIfInBounds position value).extract 0 length =
      (bits.extract 0 length).setIfInBounds position value := by
  refine Array.ext_getElem? fun i => ?_
  simp only [Array.getElem?_extract, Array.getElem?_setIfInBounds, Array.size_setIfInBounds,
    Array.size_extract]
  grind

/-- A soft bit is not set beyond the end of what its code block shows. -/
theorem apply_bit_of_le (buffer : SoftBuffer) {position : Nat}
    (h : buffer.blocks.softBits ≤ position) (block : Nat) (value : Int16) :
    buffer.apply (.bit block position value) = buffer := by
  simp only [apply, write, if_pos h]
  split <;> rfl

/-- What a visible soft bit that is set leaves in the storage of a code block. -/
theorem storage_apply_bit {buffer : SoftBuffer} {position i : Nat} {bits : Array Int16}
    (hposition : position < buffer.blocks.softBits) (block : Nat) (value : Int16)
    (hi : i < buffer.blocks.count) (hbits : buffer.storage[i]? = some bits) :
    (buffer.apply (.bit block position value)).storage[i]? =
      some (if block = i then bits.setIfInBounds position value else bits) := by
  by_cases hblock : buffer.blocks.count ≤ block
  · have hother : block ≠ i := by omega
    simp only [apply, write, if_pos hblock, if_neg hother]
    exact hbits
  · simp only [apply, write, if_neg hblock, if_neg (Nat.not_le.mpr hposition)]
    show (buffer.storage.modify block _)[i]? = _
    rw [Array.getElem?_modify, hbits]
    split <;> rfl

/-- A soft bit is set in its own code block and in no other one. -/
theorem HasRoom.block?_apply_bit {buffer : SoftBuffer} (h : buffer.HasRoom)
    (block position : Nat) (value : Int16) (i : Nat) :
    (buffer.apply (.bit block position value)).block? i =
      if block = i then (buffer.block? i).map (·.setIfInBounds position value)
      else buffer.block? i := by
  by_cases hi : i < buffer.blocks.count
  · obtain ⟨bits, hbits, hsize⟩ := h.storage i hi
    have hshown := block?_eq_extract hi hbits hsize
    by_cases hposition : position < buffer.blocks.softBits
    · have hstored := storage_apply_bit hposition block value hi hbits
      have hlong : buffer.blocks.softBits ≤
          (if block = i then bits.setIfInBounds position value else bits).size := by
        split
        · rwa [Array.size_setIfInBounds]
        · exact hsize
      rw [hshown, block?_eq_extract (by rwa [blocks_apply]) hstored (by rwa [blocks_apply]),
        blocks_apply]
      split
      · rw [extract_setIfInBounds, Option.map_some]
      · rfl
    · have hsame : (bits.extract 0 buffer.blocks.softBits).setIfInBounds position value =
          bits.extract 0 buffer.blocks.softBits :=
        Array.setIfInBounds_eq_of_size_le (by rw [Array.size_extract]; omega)
      rw [apply_bit_of_le buffer (Nat.le_of_not_lt hposition), hshown, Option.map_some, hsame,
        ite_self]
  · have hnone : buffer.block? i = none := block?_eq_none (Nat.le_of_not_lt hi)
    have hafter : (buffer.apply (.bit block position value)).block? i = none :=
      block?_eq_none (by rw [blocks_apply]; exact Nat.le_of_not_lt hi)
    rw [hnone, hafter, Option.map_none, ite_self]

/-- The checksum result of a visible code block reads back; there is none to set beyond. -/
theorem HasRoom.crcOf_setBlockCrc {buffer : SoftBuffer} (h : buffer.HasRoom) (block i : Nat)
    (ok : Bool) :
    (buffer.setBlockCrc block ok).crcOf i =
      if block = i ∧ i < buffer.blocks.count then ok else buffer.crcOf i := by
  have hsize := h.blockCrc
  simp only [crcOf, setBlockCrc, Array.getD_eq_getD_getElem?, Array.getElem?_setIfInBounds]
  grind

/-- Setting a soft bit leaves the checksum results alone. -/
theorem checksums_apply_bit (buffer : SoftBuffer) (block position : Nat) (value : Int16) :
    (buffer.apply (.bit block position value)).blockCrc = buffer.blockCrc ∧
      (buffer.apply (.bit block position value)).transportCrc = buffer.transportCrc := by
  simp only [apply, write]
  split
  · exact ⟨rfl, rfl⟩
  · split <;> exact ⟨rfl, rfl⟩

/-- Every code block is shown as zeros once the buffer is made ready. -/
theorem block?_resetFor (buffer : SoftBuffer) {tbs i : Nat}
    (hi : i < (CodeBlocks.ofTbs tbs).count) :
    (buffer.resetFor tbs).block? i = some (.replicate (CodeBlocks.ofTbs tbs).softBits 0) := by
  have hshown : (buffer.resetFor tbs).block? i = _ :=
    block?_eq_extract hi (storage_resetFor buffer hi) (le_size_cleared ..)
  rw [hshown, cleared, Array.extract_replicate]
  congr 2
  show min (CodeBlocks.ofTbs tbs).softBits _ - 0 = _
  omega

/-! ## Alike buffers -/

section Alike

variable {first second : SoftBuffer}

theorem Alike.apply (h : first.Alike second) (write : SoftWrite) :
    (first.apply write).Alike (second.apply write) := by
  refine ⟨h.first_room.apply write, h.second_room.apply write, ?_⟩
  obtain ⟨hfirst, hsecond, hblocks, hblock?, hcrc, htransport⟩ := h
  cases write with
  | bit block position value =>
    have hfirstCrc := checksums_apply_bit first block position value
    have hsecondCrc := checksums_apply_bit second block position value
    refine ⟨by rw [blocks_apply, blocks_apply, hblocks], fun i => ?_, fun i => ?_, ?_⟩
    · rw [hfirst.block?_apply_bit, hsecond.block?_apply_bit, hblock?]
    · rw [crcOf, crcOf, hfirstCrc.1, hsecondCrc.1]
      exact hcrc i
    · rw [hfirstCrc.2, hsecondCrc.2, htransport]
  | blockCrc block ok =>
    refine ⟨hblocks, hblock?, fun i => ?_, htransport⟩
    show (first.setBlockCrc block ok).crcOf i = (second.setBlockCrc block ok).crcOf i
    rw [hfirst.crcOf_setBlockCrc, hsecond.crcOf_setBlockCrc, hblocks, hcrc]
  | transportCrc ok => exact ⟨hblocks, hblock?, hcrc, rfl⟩

/-- Any two buffers look alike once they are made ready for the same transport block. -/
theorem alike_resetFor (first second : SoftBuffer) (tbs : Nat) :
    (first.resetFor tbs).Alike (second.resetFor tbs) := by
  refine ⟨hasRoom_resetFor first tbs, hasRoom_resetFor second tbs, rfl, fun i => ?_, fun i => rfl,
    rfl⟩
  by_cases hi : i < (CodeBlocks.ofTbs tbs).count
  · rw [block?_resetFor first hi, block?_resetFor second hi]
  · have hi := Nat.le_of_not_lt hi
    rw [block?_eq_none hi, block?_eq_none hi]

/-- Any two buffers look alike once they are cleared: nothing is shown. -/
theorem alike_reset (first second : SoftBuffer) : first.reset.Alike second.reset :=
  ⟨hasRoom_reset first, hasRoom_reset second, rfl,
    fun i => (block?_eq_none (Nat.zero_le i)).trans (block?_eq_none (Nat.zero_le i)).symm,
    fun _ => rfl, rfl⟩

/-- A cleared buffer looks like one that was never used. -/
theorem alike_reset_empty (buffer : SoftBuffer) : buffer.reset.Alike .empty := by
  have hempty : empty.reset = empty := by simp [reset, empty]
  exact hempty ▸ alike_reset buffer .empty

theorem Alike.operate (h : first.Alike second) (operation : SoftOperation) :
    (first.operate operation).Alike (second.operate operation) := by
  cases operation with
  | write write => exact h.apply write
  | resetFor tbs => exact alike_resetFor first second tbs
  | reset => exact alike_reset first second

theorem Alike.operateAll (h : first.Alike second) (operations : List SoftOperation) :
    (first.operateAll operations).Alike (second.operateAll operations) := by
  induction operations generalizing first second with
  | nil => exact h
  | cons operation rest ih => exact ih (h.operate operation)

end Alike

end SoftBuffer

/-! ## Both slots -/

namespace HarqBuffers

/-- Both slots remember the same marks, and their buffers look alike. -/
structure Alike (first second : HarqBuffers) : Prop where
  mark? : ∀ slot, first.mark? slot = second.mark? slot
  buffer : ∀ slot, (first.buffer slot).Alike (second.buffer slot)

theorem Alike.clears_eq {first second : HarqBuffers} (h : first.Alike second)
    (message : DciMessage) (slot : Slot) :
    first.clears message slot = second.clears message slot := by
  simp only [clears, isNewData, h.mark?]

/-- Slots that are cleared look as if they had never been used. -/
theorem alike_resetAll_empty (harq : HarqBuffers) : harq.resetAll.Alike .empty where
  mark? := fun slot => by rw [mark?_resetAll, mark?_empty]
  buffer := fun slot => by
    rw [buffer_resetAll, buffer_empty]
    exact SoftBuffer.alike_reset_empty _

theorem alike_resetAll (first second : HarqBuffers) : first.resetAll.Alike second.resetAll where
  mark? := fun slot => by rw [mark?_resetAll, mark?_resetAll]
  buffer := fun slot => by
    rw [buffer_resetAll, buffer_resetAll]
    exact SoftBuffer.alike_reset _ _

end HarqBuffers

/-- **A message means the same to slots that look alike.** It is resolved to the same configuration
or rejected for the same reason, and the slots look alike afterwards. -/
theorem agree_resolve (message : DciMessage) (tti : UInt32) (cfi : Nat) (cell : CellConfig) :
    Agree HarqBuffers.Alike (resolve message tti cfi cell) (resolve message tti cfi cell) := by
  intro first second h
  cases hconfig : PdschConfig.ofMessage message tti cfi cell with
  | error fault =>
    simp only [resolve, hconfig]
    exact ⟨rfl, h⟩
  | ok config =>
    have hresolve : ∀ harq : HarqBuffers, resolve message tti cfi cell harq =
        .ok config (harq.prepareFor message.fields config.grant) :=
      fun _ => resolve_eq_ok_iff.mpr ⟨hconfig, rfl⟩
    rw [hresolve, hresolve]
    refine ⟨rfl, fun slot => ?_, fun slot => ?_⟩
    · simp only [stateAfter]
      rw [mark?_of_resolve (hresolve first), mark?_of_resolve (hresolve second), h.mark?]
    · simp only [stateAfter]
      rw [buffer_of_resolve (hresolve first), buffer_of_resolve (hresolve second), h.clears_eq]
      split
      · exact SoftBuffer.alike_resetFor _ _ _
      · exact h.buffer slot

end LteReceiver
