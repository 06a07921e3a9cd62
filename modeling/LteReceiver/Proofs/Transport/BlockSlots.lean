import LteReceiver.Proofs.Transport.Combining

/-!
# Which transport block a slot holds

A grant moves the blocks it sends up to the first slots, so block 1 stands in slot 0 when it is sent
alone. The mark of a slot takes the size from the block that stands there, but the new data
indicator from the block that has the slot's number. Slot 1 only ever holds block 1, where the two
agree. In slot 0 they do not, and soft bits of one block are combined with those of another
(`MixesBlocks`) in the cases that `mixesBlocks_iff` lists.
-/

namespace LteReceiver

/-- The transport block of a message that a slot holds. -/
def DciFields.blockIn? (fields : DciFields) (slot : Slot) : Option (Fin 2) :=
  fields.enabledBlocks[slot.val]?

/-- Two messages put a block of one number with one new data indicator into a slot. -/
def SameBlock (previous message : DciMessage) (slot : Slot) : Prop :=
  previous.fields.blockIn? slot = message.fields.blockIn? slot ∧
    ∀ block, message.fields.blockIn? slot = some block →
      previous.fields.ndi.get block = message.fields.ndi.get block

/-- A message is combined with what an earlier one left in a slot, although that was another block
or other data. -/
def MixesBlocks (past : List HarqEvent) (message : DciMessage) (slot : Slot) : Prop :=
  (HarqBuffers.after past).clears message slot = false ∧
    ∃ previous, lastUse? slot past = some previous ∧ ¬ SameBlock previous message slot

/-! ## Blocks and slots -/

theorem enabledBlocks_eq (fields : DciFields) : fields.enabledBlocks =
    (if fields.enabled.get 0 then [(0 : Fin 2)] else []) ++
      (if fields.enabled.get 1 then [(1 : Fin 2)] else []) := by
  have hrange : List.finRange 2 = [0, 1] := rfl
  rw [DciFields.enabledBlocks, hrange]
  cases h0 : fields.enabled.get 0 <;> cases h1 : fields.enabled.get 1 <;> simp [h0, h1]

/-- Slot 0 holds block 0 if that is sent, and block 1 if not. -/
theorem blockIn?_zero {fields : DciFields} (h : 0 < (DlGrant.ofFields fields).nofBlocks) :
    fields.blockIn? 0 = some (if fields.enabled.get 0 then 0 else 1) := by
  have hlen : 0 < fields.enabledBlocks.length := h
  rw [DciFields.blockIn?, enabledBlocks_eq]
  rw [enabledBlocks_eq] at hlen
  cases h0 : fields.enabled.get 0 <;> cases h1 : fields.enabled.get 1 <;> simp_all

/-- Slot 1 is used only when both blocks are sent. -/
theorem blockIn?_one {fields : DciFields} (h : 1 < (DlGrant.ofFields fields).nofBlocks) :
    fields.blockIn? 1 = some 1 := by
  have hlen : 1 < fields.enabledBlocks.length := h
  rw [DciFields.blockIn?, enabledBlocks_eq]
  rw [enabledBlocks_eq] at hlen
  cases h0 : fields.enabled.get 0 <;> cases h1 : fields.enabled.get 1 <;> simp_all

/-- The message that last used a slot used it. -/
theorem uses_of_lastUse? {slot : Slot} {previous : DciMessage} {past : List HarqEvent}
    (h : lastUse? slot past = some previous) :
    slot.val < (DlGrant.ofFields previous.fields).nofBlocks := by
  induction past with
  | nil => cases h
  | cons event past ih =>
    cases event with
    | grant message tti cfi cell =>
      simp only [lastUse?, HarqEvent.use?] at h
      split at h
      next config hconfig =>
        split at h
        next hs =>
          obtain rfl : message = previous := by simpa using h
          rwa [grant_of_ofMessage hconfig] at hs
        next => exact ih (by simpa using h)
      next => exact ih (by simpa using h)
    | write target write => exact ih (by simpa [lastUse?, HarqEvent.use?] using h)
    | resetAll => cases h

/-! ## Slot 1 -/

/-- Messages that set one mark on slot 1 have the same block there. -/
theorem sameBlock_one {previous message : DciMessage}
    (hp : 1 < (DlGrant.ofFields previous.fields).nofBlocks)
    (hm : 1 < (DlGrant.ofFields message.fields).nofBlocks)
    (h : previous.markAt 1 = message.markAt 1) : SameBlock previous message 1 := by
  refine ⟨(blockIn?_one hp).trans (blockIn?_one hm).symm, fun block hb => ?_⟩
  rw [blockIn?_one hm] at hb
  obtain rfl := Option.some.inj hb
  exact congrArg BlockMark.ndi h

/-! ## Slot 0 -/

/-- Messages that set one mark on slot 0 differ in their block there if just one of them sends
block 0, or if neither does and their indicators for block 1 differ. -/
theorem not_sameBlock_zero_iff {previous message : DciMessage}
    (hp : 0 < (DlGrant.ofFields previous.fields).nofBlocks)
    (hm : 0 < (DlGrant.ofFields message.fields).nofBlocks)
    (h : previous.markAt 0 = message.markAt 0) :
    ¬ SameBlock previous message 0 ↔
      previous.fields.enabled.get 0 ≠ message.fields.enabled.get 0 ∨
        message.fields.enabled.get 0 = false ∧
          previous.fields.ndi.get 1 ≠ message.fields.ndi.get 1 := by
  have hndi : previous.fields.ndi.get 0 = message.fields.ndi.get 0 := congrArg BlockMark.ndi h
  rw [SameBlock, blockIn?_zero hp, blockIn?_zero hm]
  cases previous.fields.enabled.get 0 <;> cases message.fields.enabled.get 0 <;> simp [hndi]

/-! ## Mixing -/

variable {past : List HarqEvent} {message previous : DciMessage} {slot : Slot}

/-- A message that does not clear a slot signals a redundancy version and repeats the mark of the
last message that used the slot. -/
theorem clears_eq_false_iff : (HarqBuffers.after past).clears message slot = false ↔
    message.fields.rv? ≠ none ∧
      ∃ previous, lastUse? slot past = some previous ∧
        previous.markAt slot = message.markAt slot := by
  rw [HarqBuffers.not_clears_iff, (consistent_after past).marks slot, Option.map_eq_some_iff]

/--
**When blocks are mixed in a slot that an accepted message uses.**

It happens in slot 0 alone: to a message that signals a redundancy version and repeats there the
process, size and indicator number 0 of the last message that used the slot, when just one of the
two sends block 0, or when neither does and the indicator of block 1 has changed.
-/
theorem mixesBlocks_iff {tti : UInt32} {cfi : Nat} {cell : CellConfig} {config : PdschConfig}
    {harq : HarqBuffers} (h : resolve message tti cfi cell (.after past) = .ok config harq)
    (hs : slot.val < config.grant.nofBlocks) :
    MixesBlocks past message slot ↔
      slot = 0 ∧ message.fields.rv? ≠ none ∧
        ∃ previous, lastUse? 0 past = some previous ∧ previous.markAt 0 = message.markAt 0 ∧
          (previous.fields.enabled.get 0 ≠ message.fields.enabled.get 0 ∨
            message.fields.enabled.get 0 = false ∧
              previous.fields.ndi.get 1 ≠ message.fields.ndi.get 1) := by
  rw [grant_of_ofMessage (resolve_eq_ok_iff.mp h).1] at hs
  rw [MixesBlocks, clears_eq_false_iff]
  constructor
  · rintro ⟨⟨hrv, previous, hlast, hmark⟩, previous', hlast', hdiff⟩
    obtain rfl : previous = previous' := Option.some.inj (hlast.symm.trans hlast')
    have hp := uses_of_lastUse? hlast
    -- in slot 1 block and indicator belong together, so only slot 0 is left
    match slot with
    | 0 => exact ⟨rfl, hrv, previous, hlast, hmark, (not_sameBlock_zero_iff hp hs hmark).mp hdiff⟩
    | 1 => exact absurd (sameBlock_one hp hs hmark) hdiff
  · rintro ⟨rfl, hrv, previous, hlast, hmark, hdiff⟩
    exact ⟨⟨hrv, previous, hlast, hmark⟩, previous, hlast,
      (not_sameBlock_zero_iff (uses_of_lastUse? hlast) hs hmark).mpr hdiff⟩

/-- The second block alone, and with new data at that. -/
def secondAlone : DciMessage :=
  repeatable false true false true

theorem mixesBlocks_secondAlone :
    ∃ config harq,
      resolve secondAlone 18 2 cellOfTwoPorts (.after historyOfBothBlocks) = .ok config harq ∧
        0 < config.grant.nofBlocks ∧ MixesBlocks historyOfBothBlocks secondAlone 0 := by
  have hr : resolve secondAlone 18 2 cellOfTwoPorts (.after historyOfBothBlocks) = .ok _ _ :=
    resolve_eq_ok_iff.mpr ⟨rfl, rfl⟩
  exact ⟨_, _, hr, by decide, (mixesBlocks_iff hr (by decide)).mpr
    ⟨rfl, by decide, bothBlocks, rfl, rfl, .inl (by decide)⟩⟩

/-- **A slot is not always combined with the block it held before.** -/
theorem not_always_sameBlock :
    ¬ ∀ (past : List HarqEvent) (message : DciMessage) (tti : UInt32) (cfi : Nat)
      (cell : CellConfig) (config : PdschConfig) (harq : HarqBuffers) (slot : Slot)
      (previous : DciMessage),
      resolve message tti cfi cell (.after past) = .ok config harq →
      slot.val < config.grant.nofBlocks →
      (HarqBuffers.after past).clears message slot = false →
      lastUse? slot past = some previous →
      SameBlock previous message slot := by
  intro h
  have hsame : SameBlock bothBlocks secondAlone 0 :=
    h historyOfBothBlocks secondAlone 18 2 cellOfTwoPorts _ _ 0 bothBlocks
      (resolve_eq_ok_iff.mpr ⟨rfl, rfl⟩) (by decide) (by decide) rfl
  have hblock : bothBlocks.fields.blockIn? 0 ≠ secondAlone.fields.blockIn? 0 := by decide
  exact hblock hsame.1

end LteReceiver
