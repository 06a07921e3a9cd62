import LteReceiver.Transport.SoftBuffer

/-!
# What a soft buffer shows

Storage outlives the transport block it was made for, so a buffer holds more than it shows. Two
facts keep the two apart:

* **room** (`SoftBuffer.HasRoom`): every code block of the current division has storage that is long
  enough, so that all of it is visible. Every operation keeps room.
* **clearing**: `resetFor` and `reset` leave nothing set in what is visible
  (`SoftBuffer.IsClear`), whatever the storage held before.

A decoder changes a buffer by `SoftWrite`s only. They change neither the division nor the room.
-/

namespace LteReceiver

/-- One change that a decoder makes to a soft buffer: to a soft bit or to a checksum result. -/
inductive SoftWrite where
  | bit (block position : Nat) (value : Int16)
  | blockCrc (block : Nat) (ok : Bool)
  | transportCrc (ok : Bool)
deriving DecidableEq, Repr

namespace SoftBuffer

/-- The buffer after a change. A soft bit that is not visible stays as it is. -/
def apply (buffer : SoftBuffer) : SoftWrite → SoftBuffer
  | .bit block position value => (buffer.write block position value).toOption.getD buffer
  | .blockCrc block ok => buffer.setBlockCrc block ok
  | .transportCrc ok => buffer.setTransportCrc ok

/-! ## Visible code blocks -/

/-- A visible soft bit. -/
def bit? (buffer : SoftBuffer) (block position : Nat) : Option Int16 :=
  (buffer.block? block).bind (·[position]?)

/-- The buffer shows the code blocks of a division, and no others. -/
def Shows (buffer : SoftBuffer) (blocks : CodeBlocks) : Prop :=
  buffer.blocks = blocks ∧
    ∀ i, (buffer.block? i).map Array.size = if i < blocks.count then some blocks.softBits else none

/-- Nothing is set: every visible soft bit is zero and no checksum was right. -/
def IsClear (buffer : SoftBuffer) : Prop :=
  (∀ block position value, buffer.bit? block position = some value → value = 0) ∧
    (∀ i, buffer.crcOf i = false) ∧ buffer.transportCrc = false

/-- There is storage for every code block of the current division, and a checksum result. -/
structure HasRoom (buffer : SoftBuffer) : Prop where
  storage : ∀ i, i < buffer.blocks.count →
    ∃ bits, buffer.storage[i]? = some bits ∧ buffer.blocks.softBits ≤ bits.size
  blockCrc : buffer.blockCrc.size = buffer.blocks.count

theorem block?_eq_none {buffer : SoftBuffer} {i : Nat} (h : buffer.blocks.count ≤ i) :
    buffer.block? i = none := by
  simp [block?, Nat.not_lt.mpr h]

theorem block?_eq_extract {buffer : SoftBuffer} {i : Nat} {bits : Array Int16}
    (hi : i < buffer.blocks.count) (hbits : buffer.storage[i]? = some bits)
    (hsize : buffer.blocks.softBits ≤ bits.size) :
    buffer.block? i = some (bits.extract 0 buffer.blocks.softBits) := by
  simp [block?, hi, hbits, hsize]

theorem HasRoom.shows {buffer : SoftBuffer} (h : buffer.HasRoom) : buffer.Shows buffer.blocks := by
  refine ⟨rfl, fun i => ?_⟩
  by_cases hi : i < buffer.blocks.count
  · obtain ⟨bits, hbits, hsize⟩ := h.storage i hi
    rw [block?_eq_extract hi hbits hsize, if_pos hi]
    simp [hsize]
  · rw [block?_eq_none (Nat.not_lt.mp hi), if_neg hi]
    rfl

/-! ## Changes of a decoder -/

@[simp] theorem blocks_apply (buffer : SoftBuffer) (write : SoftWrite) :
    (buffer.apply write).blocks = buffer.blocks := by
  cases write with
  | bit block position value =>
    simp only [apply, SoftBuffer.write]
    split
    · rfl
    · split <;> rfl
  | blockCrc block ok => rfl
  | transportCrc ok => rfl

/-- A change keeps the length of every stored code block. -/
theorem storage_apply (buffer : SoftBuffer) (write : SoftWrite) (i : Nat) :
    ((buffer.apply write).storage[i]?).map Array.size = (buffer.storage[i]?).map Array.size := by
  cases write with
  | bit block position value =>
    simp only [apply, SoftBuffer.write]
    split
    · rfl
    · split
      · rfl
      · -- setting an entry of the written block keeps its length
        show ((buffer.storage.modify block _)[i]?).map Array.size = _
        rw [Array.getElem?_modify]
        split
        · cases buffer.storage[i]? <;> simp
        · rfl
  | blockCrc block ok => rfl
  | transportCrc ok => rfl

theorem HasRoom.apply {buffer : SoftBuffer} (h : buffer.HasRoom) (write : SoftWrite) :
    (buffer.apply write).HasRoom where
  storage := by
    intro i hi
    rw [blocks_apply] at hi ⊢
    obtain ⟨bits, hbits, hsize⟩ := h.storage i hi
    have hlen := storage_apply buffer write i
    rw [hbits, Option.map_some] at hlen
    obtain ⟨bits', hbits', hsize'⟩ := Option.map_eq_some_iff.mp hlen
    exact ⟨bits', hbits', hsize' ▸ hsize⟩
  blockCrc := by
    rw [blocks_apply, ← h.blockCrc]
    cases write with
    | bit block position value =>
      simp only [SoftBuffer.apply, SoftBuffer.write]
      split
      · rfl
      · split <;> rfl
    | blockCrc block ok => exact Array.size_setIfInBounds
    | transportCrc ok => rfl

/-- A visible soft bit that is set reads back. -/
theorem HasRoom.bit?_apply {buffer : SoftBuffer} (h : buffer.HasRoom) {block position : Nat}
    (hblock : block < buffer.blocks.count) (hposition : position < buffer.blocks.softBits)
    (value : Int16) :
    (buffer.apply (.bit block position value)).bit? block position = some value := by
  obtain ⟨bits, hbits, hsize⟩ := h.storage block hblock
  have hstored : (buffer.apply (.bit block position value)).storage[block]? =
      some (bits.setIfInBounds position value) := by
    simp only [SoftBuffer.apply, SoftBuffer.write, if_neg (Nat.not_le.mpr hblock),
      if_neg (Nat.not_le.mpr hposition)]
    simp [Except.toOption, Array.getElem?_modify, hbits]
  have hshown : (buffer.apply (.bit block position value)).block? block = some _ :=
    block?_eq_extract (by rwa [blocks_apply]) hstored (by rw [blocks_apply]; simpa using hsize)
  have hstays : position < bits.size := Nat.lt_of_lt_of_le hposition hsize
  have hvisible : position < min buffer.blocks.softBits bits.size :=
    Nat.lt_min.mpr ⟨hposition, hstays⟩
  rw [bit?, hshown, blocks_apply, Option.bind_some, Array.getElem?_extract]
  simpa [hstays] using hvisible

/-! ## Clearing -/

theorem hasRoom_empty : SoftBuffer.empty.HasRoom where
  storage := fun i hi => absurd hi (Nat.not_lt_zero i)
  blockCrc := rfl

theorem le_size_cleared (size : Nat) (bits : Array Int16) : size ≤ (cleared size bits).size := by
  rw [cleared, Array.size_replicate]
  exact Nat.le_max_right ..

/-- What `resetFor` keeps for a code block of the new division. -/
theorem storage_resetFor (buffer : SoftBuffer) {tbs i : Nat}
    (hi : i < (CodeBlocks.ofTbs tbs).count) :
    (buffer.resetFor tbs).storage[i]? =
      some (cleared (CodeBlocks.ofTbs tbs).softBits (buffer.storage.getD i #[])) := by
  have hsize : i < max buffer.storage.size (CodeBlocks.ofTbs tbs).count :=
    Nat.lt_of_lt_of_le hi (Nat.le_max_right ..)
  simp [resetFor, clearedStorage, hsize, hi]

theorem hasRoom_resetFor (buffer : SoftBuffer) (tbs : Nat) : (buffer.resetFor tbs).HasRoom where
  storage := by
    intro i hi
    exact ⟨_, storage_resetFor buffer hi, le_size_cleared ..⟩
  blockCrc := Array.size_replicate

theorem hasRoom_reset (buffer : SoftBuffer) : buffer.reset.HasRoom where
  storage := fun i hi => absurd hi (Nat.not_lt_zero i)
  blockCrc := rfl

theorem isClear_resetFor (buffer : SoftBuffer) (tbs : Nat) : (buffer.resetFor tbs).IsClear := by
  refine ⟨?_, ?_, rfl⟩
  · intro i position value hbit
    by_cases hi : i < (CodeBlocks.ofTbs tbs).count
    · -- what is visible is a prefix of cleared storage
      have hblock : (buffer.resetFor tbs).block? i = _ :=
        block?_eq_extract hi (storage_resetFor buffer hi) (le_size_cleared ..)
      rw [bit?, hblock] at hbit
      simp only [cleared, Option.bind_some, Array.getElem?_extract,
        Array.getElem?_replicate] at hbit
      split at hbit
      · split at hbit
        · exact (Option.some.inj hbit).symm
        · cases hbit
      · cases hbit
    · rw [bit?, block?_eq_none (Nat.not_lt.mp hi)] at hbit
      cases hbit
  · intro i
    simp only [crcOf, resetFor, Array.getD_eq_getD_getElem?, Array.getElem?_replicate]
    split <;> rfl

theorem isClear_reset (buffer : SoftBuffer) : buffer.reset.IsClear := by
  refine ⟨?_, fun i => rfl, rfl⟩
  intro i position value hbit
  rw [bit?, block?_eq_none (Nat.zero_le i)] at hbit
  cases hbit

end SoftBuffer

end LteReceiver
