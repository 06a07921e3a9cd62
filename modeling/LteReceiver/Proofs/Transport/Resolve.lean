import LteReceiver.Transport.Grant

/-!
# Resolving a message, slot by slot

`resolve` visits the slots of a grant one after the other. No visit looks at what an earlier one
left, so its effect can be read off each slot alone:

* a rejected message changes nothing (`resolve_eq_error`);
* a slot that the grant does not use stays as it is;
* a slot that it uses is cleared for the new size if the message clears it (`HarqBuffers.clears`),
  else its buffer stays, and either way it remembers the message's mark
  (`buffer_of_resolve`, `mark?_of_resolve`).
-/

namespace LteReceiver

/-- The mark a message sets on a slot it uses. -/
def DciMessage.markAt (message : DciMessage) (slot : Slot) : BlockMark :=
  message.fields.mark (.ofFields message.fields) slot

/-- Whether a message clears a slot it uses. If not, what it sends is combined with what is
there. -/
def HarqBuffers.clears (harq : HarqBuffers) (message : DciMessage) (slot : Slot) : Bool :=
  harq.isNewData slot (message.markAt slot) message.fields.alwaysNew

/-- A message that does not clear a slot signals a redundancy version and repeats the mark of the
slot. -/
theorem HarqBuffers.not_clears_iff {harq : HarqBuffers} {message : DciMessage} {slot : Slot} :
    harq.clears message slot = false ↔
      message.fields.rv? ≠ none ∧ harq.mark? slot = some (message.markAt slot) := by
  simp only [clears, isNewData, DciFields.alwaysNew, Bool.or_eq_false_iff, bne_eq_false_iff_eq]
  cases message.fields.rv? <;> simp

/-! ## The configuration of a message -/

theorem ofGrant_fields {grant : DlGrant} {cfi subframe nofPorts : Nat} {rv : Vector Nat 2}
    {scheme : MimoScheme} {config : PdschConfig}
    (h : PdschConfig.ofGrant grant cfi subframe rv scheme nofPorts = .ok config) :
    config.grant = grant ∧ config.subframe = subframe ∧ config.rv = rv := by
  unfold PdschConfig.ofGrant at h
  split at h
  · cases hp : precoderIndex grant.nofBlocks grant.precodingInfo with
    | error fault => rw [hp] at h; cases h
    | ok pmi => rw [hp] at h; cases h; exact ⟨rfl, rfl, rfl⟩
  · cases h; exact ⟨rfl, rfl, rfl⟩

/-- The stages of reading a message: its blocks, its scheme, then its configuration. -/
theorem ofMessage_eq (message : DciMessage) (tti : UInt32) (cfi : Nat) (cell : CellConfig) :
    PdschConfig.ofMessage message tti cfi cell =
      if (DlGrant.ofFields message.fields).nofBlocks = 0 then .error .noTransportBlock
      else match mimoScheme message.format (DlGrant.ofFields message.fields).nofBlocks
          (DlGrant.ofFields message.fields).precodingInfo cell.nofPorts with
        | .error fault => .error fault
        | .ok scheme => PdschConfig.ofGrant (.ofFields message.fields) cfi (tti % 10).toNat
            (PdschConfig.redundancyVersions message.fields tti) scheme cell.nofPorts := by
  unfold PdschConfig.ofMessage
  dsimp only
  split
  · rfl
  · cases mimoScheme message.format (DlGrant.ofFields message.fields).nofBlocks
        (DlGrant.ofFields message.fields).precodingInfo cell.nofPorts <;> rfl

theorem ofMessage_fields {message : DciMessage} {tti : UInt32} {cfi : Nat} {cell : CellConfig}
    {config : PdschConfig} (h : PdschConfig.ofMessage message tti cfi cell = .ok config) :
    config.grant = .ofFields message.fields ∧ config.subframe = (tti % 10).toNat ∧
      config.rv = PdschConfig.redundancyVersions message.fields tti := by
  rw [ofMessage_eq] at h
  split at h
  · cases h
  · split at h
    · cases h
    · exact ofGrant_fields h

theorem grant_of_ofMessage {message : DciMessage} {tti : UInt32} {cfi : Nat} {cell : CellConfig}
    {config : PdschConfig} (h : PdschConfig.ofMessage message tti cfi cell = .ok config) :
    config.grant = .ofFields message.fields :=
  (ofMessage_fields h).1

theorem nofBlocks_ofFields_le (fields : DciFields) : (DlGrant.ofFields fields).nofBlocks ≤ 2 :=
  List.length_filter_le _ (List.finRange 2)

/-- A grant that is accepted has one or two transport blocks. -/
theorem nofBlocks_of_ofMessage {message : DciMessage} {tti : UInt32} {cfi : Nat} {cell : CellConfig}
    {config : PdschConfig} (h : PdschConfig.ofMessage message tti cfi cell = .ok config) :
    1 ≤ config.grant.nofBlocks ∧ config.grant.nofBlocks ≤ 2 := by
  have hne : (DlGrant.ofFields message.fields).nofBlocks ≠ 0 := by
    intro hzero
    rw [ofMessage_eq, if_pos hzero] at h
    cases h
  rw [grant_of_ofMessage h]
  exact ⟨Nat.one_le_iff_ne_zero.mpr hne, nofBlocks_ofFields_le message.fields⟩

/-! ## One slot -/

namespace HarqBuffers

@[simp] theorem buffer_empty (slot : Slot) : HarqBuffers.empty.buffer slot = .empty := by
  simp [buffer, HarqBuffers.empty]

@[simp] theorem mark?_empty (slot : Slot) : HarqBuffers.empty.mark? slot = none := by
  simp [mark?, HarqBuffers.empty]

@[simp] theorem buffer_resetAll (harq : HarqBuffers) (slot : Slot) :
    harq.resetAll.buffer slot = (harq.buffer slot).reset := by
  simp [buffer, resetAll]

@[simp] theorem mark?_resetAll (harq : HarqBuffers) (slot : Slot) :
    harq.resetAll.mark? slot = none := by
  simp [mark?, resetAll]

theorem buffer_modifyBuffer (harq : HarqBuffers) (target slot : Slot)
    (f : SoftBuffer → SoftBuffer) :
    (harq.modifyBuffer target f).buffer slot =
      if target = slot then f (harq.buffer slot) else harq.buffer slot := by
  by_cases he : target = slot
  · subst he
    simp [buffer, modifyBuffer]
  · have hval : target.val ≠ slot.val := fun hv => he (Fin.ext hv)
    simp [buffer, modifyBuffer, he, hval]

end HarqBuffers

/-! ## One slot made ready -/

theorem mem_slots {grant : DlGrant} {slot : Slot} :
    slot ∈ grant.slots ↔ slot.val < grant.nofBlocks := by
  simp [DlGrant.slots]

theorem nodup_slots (grant : DlGrant) : grant.slots.Nodup :=
  (List.nodup_finRange 2).filter _

namespace HarqBuffers

variable {harq : HarqBuffers} {slot other : Slot} {mark : BlockMark} {forced : Bool}

theorem buffer_prepare_self : (harq.prepare slot mark forced).2.buffer slot =
    if harq.isNewData slot mark forced then (harq.buffer slot).resetFor mark.tbs
    else harq.buffer slot := by
  simp only [prepare, buffer]
  split <;> simp

theorem buffer_prepare_of_ne (h : slot ≠ other) :
    (harq.prepare slot mark forced).2.buffer other = harq.buffer other := by
  have hval : slot.val ≠ other.val := fun he => h (Fin.ext he)
  simp only [prepare, buffer]
  split <;> simp [hval]

theorem mark?_prepare_self : (harq.prepare slot mark forced).2.mark? slot = some mark := by
  simp [prepare, mark?]

theorem mark?_prepare_of_ne (h : slot ≠ other) :
    (harq.prepare slot mark forced).2.mark? other = harq.mark? other := by
  have hval : slot.val ≠ other.val := fun he => h (Fin.ext he)
  simp [prepare, mark?, hval]

/-! ## All slots of a grant made ready -/

theorem prepareAll_of_notMem {slots : List Slot} (h : slot ∉ slots) (harq : HarqBuffers)
    (fields : DciFields) (grant : DlGrant) :
    (harq.prepareAll fields grant slots).buffer slot = harq.buffer slot ∧
      (harq.prepareAll fields grant slots).mark? slot = harq.mark? slot := by
  induction slots generalizing harq with
  | nil => exact ⟨rfl, rfl⟩
  | cons first rest ih =>
    rw [List.mem_cons, not_or] at h
    obtain ⟨hb, hm⟩ := ih h.2 (harq.prepare first (fields.mark grant first) fields.alwaysNew).2
    exact ⟨hb.trans (buffer_prepare_of_ne (Ne.symm h.1)),
      hm.trans (mark?_prepare_of_ne (Ne.symm h.1))⟩

/-- Only the visit to a slot itself changes it, and that visit finds it as it was at first. -/
theorem prepareAll_of_mem {slots : List Slot} (hnd : slots.Nodup) (h : slot ∈ slots)
    (harq : HarqBuffers) (fields : DciFields) (grant : DlGrant) :
    (harq.prepareAll fields grant slots).buffer slot =
        (if harq.isNewData slot (fields.mark grant slot) fields.alwaysNew then
          (harq.buffer slot).resetFor (grant.mcs.get slot).tbs else harq.buffer slot) ∧
      (harq.prepareAll fields grant slots).mark? slot = some (fields.mark grant slot) := by
  induction slots generalizing harq with
  | nil => cases h
  | cons first rest ih =>
    obtain ⟨hfirst, hrest⟩ := List.nodup_cons.mp hnd
    by_cases he : first = slot
    · -- no later visit is to this slot
      subst he
      obtain ⟨hb, hm⟩ := prepareAll_of_notMem hfirst
        (harq.prepare first (fields.mark grant first) fields.alwaysNew).2 fields grant
      exact ⟨hb.trans buffer_prepare_self, hm.trans mark?_prepare_self⟩
    · have hmem : slot ∈ rest := (List.mem_cons.mp h).resolve_left (Ne.symm he)
      obtain ⟨hb, hm⟩ := ih hrest hmem
        (harq.prepare first (fields.mark grant first) fields.alwaysNew).2
      refine ⟨?_, hm⟩
      -- the visit to another slot changes nothing that the visit to this one looks at
      simp only [isNewData, buffer_prepare_of_ne he, mark?_prepare_of_ne he] at hb ⊢
      exact hb

end HarqBuffers

/-! ## Resolving -/

section Resolve

variable {message : DciMessage} {tti : UInt32} {cfi : Nat} {cell : CellConfig}
  {harq harq' : HarqBuffers} {config : PdschConfig} {slot : Slot}

theorem resolve_eq_ok_iff : resolve message tti cfi cell harq = .ok config harq' ↔
    PdschConfig.ofMessage message tti cfi cell = .ok config ∧
      harq' = harq.prepareFor message.fields config.grant := by
  unfold resolve
  cases h : PdschConfig.ofMessage message tti cfi cell with
  | error fault => simp
  | ok found =>
    simp only [EStateM.Result.ok.injEq, Except.ok.injEq]
    constructor
    · rintro ⟨rfl, rfl⟩; exact ⟨rfl, rfl⟩
    · rintro ⟨rfl, rfl⟩; exact ⟨rfl, rfl⟩

/-- A rejected message leaves the soft buffers as they were. -/
theorem resolve_eq_error {error : ReceiveError}
    (h : resolve message tti cfi cell harq = .error error harq') : harq' = harq := by
  unfold resolve at h
  split at h
  · cases h; rfl
  · cases h

theorem buffer_of_resolve (h : resolve message tti cfi cell harq = .ok config harq') :
    harq'.buffer slot =
      if slot.val < config.grant.nofBlocks ∧ harq.clears message slot then
        (harq.buffer slot).resetFor (config.grant.mcs.get slot).tbs
      else harq.buffer slot := by
  obtain ⟨hconfig, rfl⟩ := resolve_eq_ok_iff.mp h
  rw [grant_of_ofMessage hconfig]
  by_cases hs : slot.val < (DlGrant.ofFields message.fields).nofBlocks
  · simp only [hs, true_and]
    exact (HarqBuffers.prepareAll_of_mem (nodup_slots _) (mem_slots.mpr hs) ..).1
  · rw [if_neg fun hc => hs hc.1]
    exact (HarqBuffers.prepareAll_of_notMem (fun hm => hs (mem_slots.mp hm)) ..).1

theorem mark?_of_resolve (h : resolve message tti cfi cell harq = .ok config harq') :
    harq'.mark? slot =
      if slot.val < config.grant.nofBlocks then some (message.markAt slot)
      else harq.mark? slot := by
  obtain ⟨hconfig, rfl⟩ := resolve_eq_ok_iff.mp h
  rw [grant_of_ofMessage hconfig]
  by_cases hs : slot.val < (DlGrant.ofFields message.fields).nofBlocks
  · rw [if_pos hs]
    exact (HarqBuffers.prepareAll_of_mem (nodup_slots _) (mem_slots.mpr hs) ..).2
  · rw [if_neg hs]
    exact (HarqBuffers.prepareAll_of_notMem (fun hm => hs (mem_slots.mp hm)) ..).2

end Resolve

end LteReceiver
