import LteReceiver.Proofs.Transport.BlockSlots

/-!
# Where the data of a slot come from

A message has a modulation with a size, a new data indicator and a redundancy version for each of
its transport blocks, all numbered by block. A grant moves the blocks it sends up to the first
slots. The modulation and the size move with their block; the indicator and the version are taken by
the number of the slot.

A slot and its block have the same number unless block 1 is sent alone. Then slot 0 is decoded with
the version of block 0, and tells new data by the indicator of block 0, although that block is not
sent. So all data of a slot are its block's own (`OwnData`) in the cases that `ownData_iff` lists.
-/

namespace LteReceiver

/-- The redundancy version that a message signals for a transport block. -/
def DciFields.ownRv? (fields : DciFields) (block : Fin 2) : Option Nat :=
  fields.rv?.map fun first => if block.val = 0 then first else fields.secondRv

/-- All that a slot is given is the own data of a transport block: its modulation and size, the
indicator in the mark of the slot, and the version that is signalled. -/
structure OwnData (message : DciMessage) (config : PdschConfig) (slot : Slot) (block : Fin 2) :
    Prop where
  mcs : config.grant.mcs.get slot = message.fields.mcs.get block
  ndi : (message.markAt slot).ndi = message.fields.ndi.get block
  rv : ∀ rv, message.fields.ownRv? block = some rv → config.rv.get slot = rv

/-! ## Blocks in slots -/

/-- A block takes its modulation and size along. -/
theorem mcs_ofFields {fields : DciFields} {slot : Slot} {block : Fin 2}
    (h : fields.blockIn? slot = some block) :
    (DlGrant.ofFields fields).mcs.get slot = fields.mcs.get block := by
  have hsent : fields.enabledBlocks[slot.val]? = some block := h
  have hget : (DlGrant.ofFields fields).mcs.get slot = _ := Vector.getElem_ofFn slot.isLt
  rw [hget]
  simp only [hsent]

/-- Every slot that is used holds a block. It has the number of the slot, unless block 1 is sent
alone. -/
theorem exists_blockIn? {fields : DciFields} {slot : Slot}
    (h : slot.val < (DlGrant.ofFields fields).nofBlocks) :
    ∃ block, fields.blockIn? slot = some block ∧
      (block ≠ slot ↔ slot = 0 ∧ fields.enabled.get 0 = false) := by
  match slot with
  | 0 =>
    refine ⟨_, blockIn?_zero h, ?_⟩
    cases fields.enabled.get 0 <;> simp
  | 1 => exact ⟨1, blockIn?_one h, by simp⟩

/-- A signalled version stands in the slot with the number of the block it is signalled for. -/
theorem rv_redundancyVersions {fields : DciFields} {slot : Slot} {rv : Nat} (tti : UInt32)
    (h : fields.ownRv? slot = some rv) :
    (PdschConfig.redundancyVersions fields tti).get slot = rv := by
  obtain ⟨first, hfirst, hrv⟩ := Option.map_eq_some_iff.mp h
  simp only [PdschConfig.redundancyVersions, hfirst]
  match slot with
  | 0 => exact hrv
  | 1 => exact hrv

/-! ## The data of a slot -/

section Resolve

variable {message : DciMessage} {tti : UInt32} {cfi : Nat} {cell : CellConfig}
  {harq harq' : HarqBuffers} {config : PdschConfig} {slot : Slot} {block : Fin 2}

/-- The indicator and the version of a slot are those of the block that has its number. -/
theorem data_of_resolve (h : resolve message tti cfi cell harq = .ok config harq') (slot : Slot) :
    (message.markAt slot).ndi = message.fields.ndi.get slot ∧
      ∀ rv, message.fields.ownRv? slot = some rv → config.rv.get slot = rv := by
  refine ⟨rfl, fun rv hrv => ?_⟩
  rw [(ofMessage_fields (resolve_eq_ok_iff.mp h).1).2.2]
  exact rv_redundancyVersions tti hrv

/-- Block 1, sent alone, has its own data in slot 0 just when the data of block 0 are the same. -/
theorem ownData_zero_one (h : resolve message tti cfi cell harq = .ok config harq')
    (hmcs : config.grant.mcs.get 0 = message.fields.mcs.get 1) :
    OwnData message config 0 1 ↔ message.fields.ndi.get 0 = message.fields.ndi.get 1 ∧
      ∀ rv, message.fields.rv? = some rv → rv = message.fields.secondRv := by
  obtain ⟨hndi, hrv⟩ := data_of_resolve h 0
  constructor
  · intro hown
    refine ⟨hndi.symm.trans hown.ndi, fun rv hsome => ?_⟩
    have hzero : config.rv.get 0 = rv := hrv rv (by simp [DciFields.ownRv?, hsome])
    have hone : config.rv.get 0 = message.fields.secondRv :=
      hown.rv _ (by simp [DciFields.ownRv?, hsome])
    rw [← hzero, hone]
  · rintro ⟨hsame, hversions⟩
    refine ⟨hmcs, hndi.trans hsame, fun rv hone => ?_⟩
    -- a version is signalled for block 1 only where one is for block 0
    obtain ⟨first, hfirst, hsecond⟩ := Option.map_eq_some_iff.mp hone
    have hzero : config.rv.get 0 = first := hrv first (by simp [DciFields.ownRv?, hfirst])
    rw [hzero, hversions first hfirst]
    exact hsecond

/--
**Where the data of a slot that an accepted message uses come from.**

The slot holds a block, the modulation and size are that block's, and the slot is cleared for this
size unless a version is signalled and the slot remembers the mark of the message. The block has the
number of the slot unless block 1 is sent alone. All data of the slot are the block's own if the
numbers are the same, or else if both blocks have the same indicator and no other version is
signalled for block 0 than for block 1.
-/
theorem ownData_iff (h : resolve message tti cfi cell harq = .ok config harq')
    (hs : slot.val < config.grant.nofBlocks) :
    ∃ block, message.fields.blockIn? slot = some block ∧
      config.grant.mcs.get slot = message.fields.mcs.get block ∧
      harq'.buffer slot =
        (if message.fields.rv? ≠ none ∧ harq.mark? slot = some (message.markAt slot) then
          harq.buffer slot
        else (harq.buffer slot).resetFor (message.fields.mcs.get block).tbs) ∧
      (block ≠ slot ↔ slot = 0 ∧ message.fields.enabled.get 0 = false) ∧
      (OwnData message config slot block ↔ block = slot ∨
        message.fields.ndi.get 0 = message.fields.ndi.get 1 ∧
          ∀ rv, message.fields.rv? = some rv → rv = message.fields.secondRv) := by
  have hgrant := grant_of_ofMessage (resolve_eq_ok_iff.mp h).1
  obtain ⟨block, hblock, hnumber⟩ := exists_blockIn? (hgrant ▸ hs)
  have hmcs : config.grant.mcs.get slot = message.fields.mcs.get block := by
    rw [hgrant]
    exact mcs_ofFields hblock
  refine ⟨block, hblock, hmcs, ?_, hnumber, ?_⟩
  · rw [buffer_of_resolve h, hmcs]
    simp only [hs, true_and, ← HarqBuffers.not_clears_iff, Bool.eq_false_iff]
    by_cases hclears : harq.clears message slot = true
    · rw [if_pos hclears, if_neg (not_not_intro hclears)]
    · rw [if_neg hclears, if_pos hclears]
  · by_cases hsame : block = slot
    · subst hsame
      obtain ⟨hndi, hrv⟩ := data_of_resolve h block
      exact iff_of_true ⟨hmcs, hndi, hrv⟩ (.inl rfl)
    · -- a block in a slot of another number is block 1, alone in slot 0
      obtain ⟨rfl, -⟩ := hnumber.mp hsame
      have hone : block = 1 := by omega
      subst hone
      rw [ownData_zero_one h hmcs]
      simp

end Resolve

/-- The second block alone is decoded with the data of the first one. -/
theorem ownData_iff_secondAlone :
    ∃ config harq, resolve secondAlone 18 2 cellOfTwoPorts .empty = .ok config harq ∧
      0 < config.grant.nofBlocks ∧ ¬ OwnData secondAlone config 0 1 := by
  have hr : resolve secondAlone 18 2 cellOfTwoPorts .empty = .ok _ _ :=
    resolve_eq_ok_iff.mpr ⟨rfl, rfl⟩
  have hused : (0 : Slot).val < (DlGrant.ofFields secondAlone.fields).nofBlocks := by decide
  obtain ⟨block, hblock, -, -, -, hown⟩ := ownData_iff hr hused
  have hone : secondAlone.fields.blockIn? 0 = some 1 := rfl
  obtain rfl : block = 1 := Option.some.inj (hblock.symm.trans hone)
  refine ⟨_, _, hr, hused, fun howned => ?_⟩
  rcases hown.mp howned with hsame | ⟨hndi, -⟩
  · exact absurd hsame (by decide)
  · exact absurd hndi (by decide)

/-- **The data of a slot are not always its block's own.** -/
theorem not_always_ownData :
    ¬ ∀ (message : DciMessage) (tti : UInt32) (cfi : Nat) (cell : CellConfig)
      (harq harq' : HarqBuffers) (config : PdschConfig) (slot : Slot) (block : Fin 2),
      resolve message tti cfi cell harq = .ok config harq' →
      slot.val < config.grant.nofBlocks →
      message.fields.blockIn? slot = some block →
      OwnData message config slot block := by
  intro h
  have hown : OwnData secondAlone _ 0 1 := h secondAlone 18 2 cellOfTwoPorts .empty _ _ 0 1
    (resolve_eq_ok_iff.mpr ⟨rfl, rfl⟩) (by decide) rfl
  have hndi : (secondAlone.markAt 0).ndi ≠ secondAlone.fields.ndi.get 1 := by decide
  exact hndi hown.ndi

end LteReceiver
