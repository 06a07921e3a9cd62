import LteReceiver.Proofs.Transport.Resolve
import LteReceiver.Proofs.Transport.SoftBits

/-!
# When soft bits are combined

The soft buffers of a downlink go through grants, writes of the decoder and clearings
(`HarqEvent`), in any order. `HarqBuffers.after` is their state after a history, which lists its
events with the latest first.

What a slot remembers and what its buffer is divided into are written by different branches of the
code: a mark at every grant, a division only where the buffer is cleared. `Consistent` ties both to
the history, and every event keeps it (`consistent_after`). From it follows what an accepted message
leaves in each slot (`slots_after_resolve`).
-/

namespace LteReceiver

/-! ## Histories -/

/-- What can happen to the soft buffers. -/
inductive HarqEvent where
  | grant (message : DciMessage) (tti : UInt32) (cfi : Nat) (cell : CellConfig)
  | write (slot : Slot) (write : SoftWrite)
  | resetAll

namespace HarqBuffers

/-- The buffers after an event. -/
def step (harq : HarqBuffers) : HarqEvent → HarqBuffers
  | .grant message tti cfi cell =>
    match resolve message tti cfi cell harq with
    | .ok _ harq => harq
    | .error _ harq => harq
  | .write slot write => harq.modifyBuffer slot (·.apply write)
  | .resetAll => harq.resetAll

/-- The buffers after a history. -/
def after : List HarqEvent → HarqBuffers
  | [] => .empty
  | event :: past => (after past).step event

end HarqBuffers

/-- The message of an event that is an accepted grant and uses a slot. -/
def HarqEvent.use? (slot : Slot) : HarqEvent → Option DciMessage
  | .grant message tti cfi cell =>
    match PdschConfig.ofMessage message tti cfi cell with
    | .ok config => if slot.val < config.grant.nofBlocks then some message else none
    | .error _ => none
  | .write .. | .resetAll => none

/-- The last accepted message that used a slot, since all slots were last cleared. -/
def lastUse? (slot : Slot) : List HarqEvent → Option DciMessage
  | [] => none
  | .resetAll :: _ => none
  | event :: past => (event.use? slot).or (lastUse? slot past)

/-- A message has new data for a slot: it signals no redundancy version, no message used the slot
since all were cleared, or the last one that did set another mark on it. -/
def HasNewData (past : List HarqEvent) (message : DciMessage) (slot : Slot) : Prop :=
  message.fields.rv? = none ∨ lastUse? slot past = none ∨
    ∃ previous, lastUse? slot past = some previous ∧ previous.markAt slot ≠ message.markAt slot

/-! ## Marks and divisions -/

/-- The state of the buffers agrees with their history. -/
structure Consistent (past : List HarqEvent) (harq : HarqBuffers) : Prop where
  room : ∀ slot : Slot, (harq.buffer slot).HasRoom
  marks : ∀ slot : Slot, harq.mark? slot = (lastUse? slot past).map (·.markAt slot)
  blocks : ∀ (slot : Slot) mark, harq.mark? slot = some mark →
    (harq.buffer slot).blocks = .ofTbs mark.tbs

variable {past : List HarqEvent} {harq harq' : HarqBuffers} {message : DciMessage} {slot : Slot}

theorem consistent_empty : Consistent [] .empty where
  room := fun slot => by
    rw [HarqBuffers.buffer_empty]
    exact SoftBuffer.hasRoom_empty
  marks := fun slot => HarqBuffers.mark?_empty slot
  blocks := fun slot mark hm => by simp at hm

theorem Consistent.write (h : Consistent past harq) (target : Slot) (write : SoftWrite) :
    Consistent (.write target write :: past) (harq.modifyBuffer target (·.apply write)) where
  room := fun slot => by
    rw [HarqBuffers.buffer_modifyBuffer]
    split
    · exact (h.room slot).apply write
    · exact h.room slot
  marks := fun slot => (h.marks slot).trans (by simp [lastUse?, HarqEvent.use?])
  blocks := fun slot mark hm => by
    rw [HarqBuffers.buffer_modifyBuffer]
    split
    · rw [SoftBuffer.blocks_apply]
      exact h.blocks slot mark hm
    · exact h.blocks slot mark hm

theorem consistent_resetAll (past : List HarqEvent) (harq : HarqBuffers) :
    Consistent (.resetAll :: past) harq.resetAll where
  room := fun slot => by
    rw [HarqBuffers.buffer_resetAll]
    exact SoftBuffer.hasRoom_reset _
  marks := fun slot => HarqBuffers.mark?_resetAll harq slot
  blocks := fun slot mark hm => by simp at hm

/-! ## One accepted message -/

/-- Whether a message clears a slot is decided by the history alone. -/
theorem Consistent.clears_iff (h : Consistent past harq) :
    harq.clears message slot = true ↔ HasNewData past message slot := by
  rw [← Bool.not_eq_false, HarqBuffers.not_clears_iff, h.marks slot, HasNewData]
  cases lastUse? slot past with
  | none => simp
  | some previous =>
    by_cases hrv : message.fields.rv? = none
    · simp [hrv]
    · simp [hrv]

variable {tti : UInt32} {cfi : Nat} {cell : CellConfig} {config : PdschConfig}

theorem lastUse?_of_resolve (h : resolve message tti cfi cell harq = .ok config harq') :
    lastUse? slot (.grant message tti cfi cell :: past) =
      if slot.val < config.grant.nofBlocks then some message else lastUse? slot past := by
  have hconfig := (resolve_eq_ok_iff.mp h).1
  simp only [lastUse?, HarqEvent.use?, hconfig]
  split <;> rfl

/-- The buffer of a slot that an accepted message uses is divided for the size it has there. -/
theorem Consistent.blocks_of_resolve (h : Consistent past harq)
    (hr : resolve message tti cfi cell harq = .ok config harq')
    (hs : slot.val < config.grant.nofBlocks) :
    (harq'.buffer slot).blocks = .ofTbs (config.grant.mcs.get slot).tbs := by
  rw [buffer_of_resolve hr]
  split
  · rfl
  next hc =>
    -- not cleared, so the slot already had this very mark
    have hclears : harq.clears message slot = false :=
      Bool.eq_false_iff.mpr fun hcl => hc ⟨hs, hcl⟩
    rw [h.blocks slot _ (HarqBuffers.not_clears_iff.mp hclears).2,
      grant_of_ofMessage (resolve_eq_ok_iff.mp hr).1]
    rfl

theorem Consistent.room_of_resolve (h : Consistent past harq)
    (hr : resolve message tti cfi cell harq = .ok config harq') (slot : Slot) :
    (harq'.buffer slot).HasRoom := by
  rw [buffer_of_resolve hr]
  split
  · exact SoftBuffer.hasRoom_resetFor _ _
  · exact h.room slot

theorem Consistent.resolve (h : Consistent past harq)
    (hr : resolve message tti cfi cell harq = .ok config harq') :
    Consistent (.grant message tti cfi cell :: past) harq' where
  room := h.room_of_resolve hr
  marks := fun slot => by
    rw [mark?_of_resolve hr, lastUse?_of_resolve hr]
    split
    · rfl
    · exact h.marks slot
  blocks := fun slot mark hm => by
    rw [mark?_of_resolve hr] at hm
    split at hm
    next hs =>
      -- the mark is new, but the division may be the old one
      obtain rfl := Option.some.inj hm
      rw [h.blocks_of_resolve hr hs, grant_of_ofMessage (resolve_eq_ok_iff.mp hr).1]
      rfl
    next hs =>
      rw [buffer_of_resolve hr, if_neg fun hc => hs hc.1]
      exact h.blocks slot mark hm

/-! ## Every history -/

/-- A rejected message is no use of any slot. -/
theorem lastUse?_of_rejected {fault : UnsupportedFault}
    (h : PdschConfig.ofMessage message tti cfi cell = .error fault) :
    lastUse? slot (.grant message tti cfi cell :: past) = lastUse? slot past := by
  simp [lastUse?, HarqEvent.use?, h]

theorem Consistent.step (h : Consistent past harq) (event : HarqEvent) :
    Consistent (event :: past) (harq.step event) := by
  cases event with
  | grant message tti cfi cell =>
    simp only [HarqBuffers.step]
    cases hr : LteReceiver.resolve message tti cfi cell harq with
    | ok config harq' => exact h.resolve hr
    | error error harq' =>
      -- the buffers stay, and the history has no new use of a slot
      obtain rfl := resolve_eq_error hr
      cases hc : PdschConfig.ofMessage message tti cfi cell with
      | ok config =>
        rw [resolve_eq_ok_iff.mpr ⟨hc, rfl⟩] at hr
        cases hr
      | error fault =>
        exact ⟨h.room, fun slot => (h.marks slot).trans (by rw [lastUse?_of_rejected hc]), h.blocks⟩
  | write slot write => exact h.write slot write
  | resetAll => exact consistent_resetAll past harq

/-- **After every history the buffers agree with it.** -/
theorem consistent_after (past : List HarqEvent) : Consistent past (.after past) := by
  induction past with
  | nil => exact consistent_empty
  | cons event past ih => exact ih.step event

theorem tbs_ofTbs (tbs : Nat) : (CodeBlocks.ofTbs tbs).tbs = tbs := by
  unfold CodeBlocks.ofTbs
  split
  next h => exact h.symm
  · dsimp only
    split <;> rfl

/--
**What an accepted message leaves in each slot.**

A slot that it uses shows the code blocks of the size it has there. The slot was cleared exactly if
the message has new data for it, and is otherwise as the decoder left it. A slot that it does not
use stays as it is.
-/
theorem slots_after_resolve (past : List HarqEvent)
    (h : resolve message tti cfi cell (.after past) = .ok config harq) (slot : Slot) :
    (slot.val < config.grant.nofBlocks →
      (harq.buffer slot).tbs = (config.grant.mcs.get slot).tbs ∧
        (harq.buffer slot).Shows (.ofTbs (config.grant.mcs.get slot).tbs) ∧
        (HasNewData past message slot →
          harq.buffer slot =
              ((HarqBuffers.after past).buffer slot).resetFor (config.grant.mcs.get slot).tbs ∧
            (harq.buffer slot).IsClear) ∧
        (¬ HasNewData past message slot →
          harq.buffer slot = (HarqBuffers.after past).buffer slot)) ∧
      (config.grant.nofBlocks ≤ slot.val →
        harq.buffer slot = (HarqBuffers.after past).buffer slot ∧
          harq.mark? slot = (HarqBuffers.after past).mark? slot) := by
  have hc : Consistent past (.after past) := consistent_after past
  refine ⟨fun hs => ?_, fun hs => ?_⟩
  · have hblocks := hc.blocks_of_resolve h hs
    refine ⟨?_, ?_, fun hnew => ?_, fun hold => ?_⟩
    · rw [SoftBuffer.tbs, hblocks, tbs_ofTbs]
    · rw [← hblocks]
      exact (hc.room_of_resolve h slot).shows
    · have hbuffer : harq.buffer slot = _ := buffer_of_resolve h
      rw [if_pos ⟨hs, hc.clears_iff.mpr hnew⟩] at hbuffer
      exact ⟨hbuffer, hbuffer ▸ SoftBuffer.isClear_resetFor _ _⟩
    · rw [buffer_of_resolve h, if_neg fun hcl => hold (hc.clears_iff.mp hcl.2)]
  · have hunused : ¬ slot.val < config.grant.nofBlocks := Nat.not_lt.mpr hs
    rw [buffer_of_resolve h, mark?_of_resolve h, if_neg fun hcl => hunused hcl.1, if_neg hunused]
    exact ⟨rfl, rfl⟩

/-! ## A repetition of one block beside new data for the other -/

/-- A cell with 50 resource blocks and two ports. -/
def cellOfTwoPorts : CellConfig :=
  ⟨50, 2, .normal, ⟨1⟩, .one, .normal⟩

/-- A message of format 2 about two blocks of 2000 bits, of process 4 and with signalled redundancy
versions: which blocks it sends, and their new data indicators. -/
def repeatable (first second firstNdi secondNdi : Bool) : DciMessage :=
  { format := .format2
    fields :=
      { harqProcess := 4
        rv? := some 1
        secondRv := 2
        ndi := #v[firstNdi, secondNdi]
        enabled := #v[first, second]
        mcs := #v[⟨10, 2000⟩, ⟨10, 2000⟩]
        precodingInfo := 0
        nofPrb := 0
        lowestPrb := 0
        cyclicShift := 0 } }

/-- Both blocks. -/
def bothBlocks : DciMessage :=
  repeatable true true false false

/-- Both blocks sent once, and a soft bit of the first slot set by the decoder. -/
def historyOfBothBlocks : List HarqEvent :=
  [.write ⟨0, Nat.zero_lt_two⟩ (.bit 0 5 42), .grant bothBlocks 10 2 cellOfTwoPorts]

/-- Both blocks again, with new data for the second one only. -/
def secondRenewed : DciMessage :=
  repeatable true true false true

theorem slots_after_secondRenewed :
    ∃ config harq,
      resolve secondRenewed 18 2 cellOfTwoPorts (.after historyOfBothBlocks) = .ok config harq ∧
        config.grant.nofBlocks = 2 ∧
        harq.buffer 0 = (HarqBuffers.after historyOfBothBlocks).buffer 0 ∧
        (harq.buffer 1).tbs = 2000 ∧ (harq.buffer 1).IsClear := by
  have hc := consistent_after historyOfBothBlocks
  have hold : ¬ HasNewData historyOfBothBlocks secondRenewed 0 :=
    fun h => absurd (hc.clears_iff.mpr h) (by decide)
  have hnew : HasNewData historyOfBothBlocks secondRenewed 1 := hc.clears_iff.mp (by decide)
  have hr : resolve secondRenewed 18 2 cellOfTwoPorts (.after historyOfBothBlocks) = .ok _ _ :=
    resolve_eq_ok_iff.mpr ⟨rfl, rfl⟩
  have hfirst := (slots_after_resolve historyOfBothBlocks hr 0).1 (by decide)
  have hsecond := (slots_after_resolve historyOfBothBlocks hr 1).1 (by decide)
  exact ⟨_, _, hr, rfl, hfirst.2.2.2 hold, hsecond.1, (hsecond.2.2.1 hnew).2⟩

end LteReceiver
