import LteReceiver.Proofs.Transport.Appearance

/-!
# Soft buffers used again and again

A soft buffer goes through operations in any order (`SoftBuffer.operateAll`, from `SoftBuffer.empty`
on), and its storage only grows: it has room for the largest division into code blocks so far
(`capacity_operateAll`). What is left in it of earlier transport blocks has no way out:

* every buffer that comes about has room (`hasRoom_operateAll`), so exactly the code blocks of the
  current division are shown, all of them in full, and can be written;
* two buffers of any past look alike from the moment they are made ready for the same transport
  block (`looksLike_after_resetFor`), so a buffer with a past looks like one without.
-/

namespace LteReceiver

/-- The number of code blocks that an operation makes a buffer ready for, if it does. -/
def SoftOperation.count? : SoftOperation → Option Nat
  | .resetFor tbs => some (CodeBlocks.ofTbs tbs).count
  | .write _ | .reset => none

namespace SoftBuffer

/-! ## Storage -/

/-- Setting a soft bit needs no storage. -/
theorem capacity_apply (buffer : SoftBuffer) (write : SoftWrite) :
    (buffer.apply write).capacity = buffer.capacity := by
  cases write with
  | bit block position value =>
    simp only [apply, SoftBuffer.write]
    split
    · rfl
    · split
      · rfl
      · exact Array.size_modify
  | blockCrc block ok => rfl
  | transportCrc ok => rfl

theorem capacity_operate (buffer : SoftBuffer) (operation : SoftOperation) :
    (buffer.operate operation).capacity = max buffer.capacity (operation.count?.getD 0) := by
  cases operation with
  | write write =>
    rw [operate, capacity_apply]
    exact (Nat.max_zero _).symm
  | resetFor tbs => exact Array.size_ofFn
  | reset =>
    show (buffer.storage.map _).size = _
    rw [Array.size_map]
    exact (Nat.max_zero _).symm

theorem capacity_operateAll (buffer : SoftBuffer) (operations : List SoftOperation) :
    (buffer.operateAll operations).capacity =
      (operations.filterMap SoftOperation.count?).foldl max buffer.capacity := by
  induction operations generalizing buffer with
  | nil => rfl
  | cons operation rest ih =>
    show ((buffer.operate operation).operateAll rest).capacity = _
    -- an operation that divides nothing asks for room for no block, so the maximum stays
    rw [ih, capacity_operate, List.filterMap_cons]
    cases operation.count? with
    | none => simp
    | some count => rfl

/-- There is storage for the largest division so far, and none before the first. -/
theorem capacity_operateAll_empty (past : List SoftOperation) :
    (empty.operateAll past).capacity =
      ((past.filterMap SoftOperation.count?).max?).getD 0 := by
  have hcapacity : (empty.operateAll past).capacity = _ := capacity_operateAll empty past
  rw [hcapacity]
  cases past.filterMap SoftOperation.count? with
  | nil => rfl
  | cons count counts =>
    -- the fold starts from the empty storage, the maximum of a list from its first element
    rw [List.max?_cons', Option.getD_some, List.foldl_cons]
    exact congrArg (List.foldl max · counts) (Nat.zero_max count)

/-! ## Room -/

theorem HasRoom.operateAll {buffer : SoftBuffer} (h : buffer.HasRoom)
    (operations : List SoftOperation) : (buffer.operateAll operations).HasRoom := by
  induction operations generalizing buffer with
  | nil => exact h
  | cons operation rest ih => exact ih (h.operate operation)

theorem hasRoom_operateAll (past : List SoftOperation) : (empty.operateAll past).HasRoom :=
  hasRoom_empty.operateAll past

/-- Every soft bit of a code block that is shown can be set, and that sets no other one. -/
theorem HasRoom.exists_write {buffer : SoftBuffer} (h : buffer.HasRoom) {i position : Nat}
    (hi : i < buffer.blocks.count) (hposition : position < buffer.blocks.softBits)
    (value : Int16) :
    ∃ after, buffer.write i position value = .ok after ∧ ∀ j, after.block? j =
      if i = j then (buffer.block? j).map (·.setIfInBounds position value)
      else buffer.block? j := by
  obtain ⟨after, hwrite⟩ : ∃ after, buffer.write i position value = .ok after := by
    rw [write, if_neg (Nat.not_le.mpr hi), if_neg (Nat.not_le.mpr hposition)]
    exact ⟨_, rfl⟩
  have happly : buffer.apply (.bit i position value) = after := by
    rw [SoftBuffer.apply, hwrite]
    rfl
  -- what a buffer with room shows after a write is known of the operation, which ignores failures
  refine ⟨after, hwrite, fun j => ?_⟩
  rw [← happly]
  exact h.block?_apply_bit i position value j

/-! ## Every past -/

/--
**A used soft buffer looks like any other one made ready for the same transport block.**

Whatever was done with two buffers before, they show the same from there on: the transport block and
its division, every code block and all checksum results, after any further operations. Nothing of an
earlier transport block comes to light again.

Whatever was done with a buffer, there is storage for each code block of its current division, so
that exactly these are shown, each one in full, and exactly their soft bits can be written. There is
storage for as many code blocks as the largest division so far had.
-/
theorem looksLike_after_resetFor :
    (∀ (firstPast secondPast : List SoftOperation) (tbs : Nat) (operations : List SoftOperation),
      (((empty.operateAll firstPast).resetFor tbs).operateAll operations).LooksLike
        (((empty.operateAll secondPast).resetFor tbs).operateAll operations)) ∧
    ∀ past : List SoftOperation,
      let buffer := empty.operateAll past
      let length := 3 * buffer.blocks.size + 12
      (∀ i, i < buffer.blocks.count →
        ∃ bits, buffer.storage[i]? = some bits ∧ length ≤ bits.size) ∧
      (∀ i, (buffer.block? i).map Array.size =
        if i < buffer.blocks.count then some length else none) ∧
      (∀ i position value, i < buffer.blocks.count → position < length →
        ∃ after, buffer.write i position value = .ok after ∧ ∀ j, after.block? j =
          if i = j then (buffer.block? j).map (·.setIfInBounds position value)
          else buffer.block? j) ∧
      (∀ i position value, i < buffer.blocks.count → length ≤ position →
        buffer.write i position value = .error .noPosition) ∧
      (∀ i position value, buffer.blocks.count ≤ i →
        buffer.write i position value = .error .noBlock) ∧
      buffer.capacity = ((past.filterMap SoftOperation.count?).max?).getD 0 := by
  constructor
  · intro firstPast secondPast tbs operations
    exact ((alike_resetFor _ _ tbs).operateAll operations).looks
  · intro past buffer length
    have hroom : buffer.HasRoom := hasRoom_operateAll past
    refine ⟨hroom.storage, hroom.shows.2, ?_, ?_, ?_, capacity_operateAll_empty past⟩
    · intro i position value hi hposition
      exact hroom.exists_write hi hposition value
    · intro i position value hi hposition
      rw [write, if_neg (Nat.not_le.mpr hi)]
      exact if_pos hposition
    · intro i position value hi
      rw [write, if_pos hi]

end SoftBuffer

end LteReceiver
