import LteReceiver.Proofs.Downlink.Runs
import LteReceiver.Proofs.Transport.Combining

/-!
# Where the soft bits of a grant come from

A soft bit that the decoder of shared data finds set was written by an earlier call to it
(`Downlink.written_of_handed`). Between the two, nothing cleared the slot: there was no reset, and
every grant that used the slot signalled a redundancy version and repeated its mark.

The mark does not hold the identity that a grant is for. So the earlier call was for the same
terminal as long as no two terminals share a mark, and need not be when they do.
-/

namespace LteReceiver

/-! ## Who wrote a soft bit -/

/-- A grant uses a slot. -/
def DecodeRecord.Uses (record : DecodeRecord) (slot : Slot) : Prop :=
  slot.val < record.config.grant.nofBlocks

/-- A call to the decoder gives a soft bit its value. -/
def DecodeRecord.Writes (record : DecodeRecord) (slot : Slot) (block position : Nat)
    (value : Int16) : Prop :=
  (record.handed slot).bit? block position ≠ some value ∧
    (record.left slot).bit? block position = some value

/-- What happens to the soft buffers does not clear a slot that has a mark: it is a decoding, and if
that uses the slot, its message signals a redundancy version and repeats the mark. -/
def SoftEvent.Continues (slot : Slot) (mark : BlockMark) : SoftEvent → Prop
  | .decode record => record.Uses slot →
      record.message.fields.rv? ≠ none ∧ record.message.markAt slot = mark
  | .clear => False

/-- A soft bit was written by a decoding that set a mark on its slot, and nothing has cleared the
slot since. -/
def Written (seen : List SoftEvent) (slot : Slot) (mark : BlockMark) (block position : Nat)
    (value : Int16) : Prop :=
  ∃ newer writer older, seen = newer ++ .decode writer :: older ∧
    writer.Uses slot ∧ writer.message.markAt slot = mark ∧
    writer.Writes slot block position value ∧ ∀ event ∈ newer, event.Continues slot mark

variable {seen : List SoftEvent} {slot : Slot} {mark : BlockMark} {block position : Nat}
  {value : Int16}

theorem Written.cons (h : Written seen slot mark block position value) {event : SoftEvent}
    (hevent : event.Continues slot mark) :
    Written (event :: seen) slot mark block position value := by
  obtain ⟨newer, writer, older, rfl, huses, hmark, hwrites, hnewer⟩ := h
  exact ⟨event :: newer, writer, older, rfl, huses, hmark, hwrites,
    List.forall_mem_cons.mpr ⟨hevent, hnewer⟩⟩

theorem written_self {writer : DecodeRecord} (huses : writer.Uses slot)
    (hwrites : writer.Writes slot block position value) :
    Written (.decode writer :: seen) slot (writer.message.markAt slot) block position value :=
  ⟨[], writer, seen, rfl, huses, rfl, hwrites, fun _ h => nomatch h⟩

/-- Every soft bit that is set in the buffers was written, by a decoding that set the mark of its
slot. -/
def Accounted (seen : List SoftEvent) (harq : HarqBuffers) : Prop :=
  ∀ (slot : Slot) block position value, (harq.buffer slot).bit? block position = some value →
    value ≠ 0 → ∃ mark, harq.mark? slot = some mark ∧ Written seen slot mark block position value

/-! ## One decoding -/

variable {harq ready : HarqBuffers} {message : DciMessage} {tti : UInt32} {cfi : Nat}
  {cell : CellConfig} {config : PdschConfig}

/-- A soft bit that is set in a slot made ready was there before: the slot was not cleared. -/
theorem bit?_of_resolve (h : resolve message tti cfi cell harq = .ok config ready)
    (hbit : (ready.buffer slot).bit? block position = some value) (hv : value ≠ 0) :
    (harq.buffer slot).bit? block position = some value ∧
      (slot.val < config.grant.nofBlocks → harq.clears message slot = false) := by
  have hbuffer : ready.buffer slot = _ := buffer_of_resolve h
  rw [hbuffer] at hbit
  split at hbit
  · exact absurd ((SoftBuffer.isClear_resetFor _ _).1 block position value hbit) hv
  next hc => exact ⟨hbit, fun hs => Bool.eq_false_iff.mpr fun hcl => hc ⟨hs, hcl⟩⟩

/-- Soft bits that are set in a slot made ready are accounted for, and if the message uses the slot,
it goes on with its mark. -/
theorem written_of_resolve (ha : Accounted seen harq)
    (h : resolve message tti cfi cell harq = .ok config ready)
    (hbit : (ready.buffer slot).bit? block position = some value) (hv : value ≠ 0) :
    ∃ mark, ready.mark? slot = some mark ∧ Written seen slot mark block position value ∧
      (slot.val < config.grant.nofBlocks →
        message.fields.rv? ≠ none ∧ message.markAt slot = mark) := by
  obtain ⟨hold, hkept⟩ := bit?_of_resolve h hbit hv
  obtain ⟨mark, hmark, hwritten⟩ := ha slot block position value hold hv
  have hready : ready.mark? slot = _ := mark?_of_resolve h
  by_cases hs : slot.val < config.grant.nofBlocks
  · obtain ⟨hrv, hrepeats⟩ := HarqBuffers.not_clears_iff.mp (hkept hs)
    obtain rfl : message.markAt slot = mark := Option.some.inj (hrepeats.symm.trans hmark)
    exact ⟨_, hready.trans (if_pos hs), hwritten, fun _ => ⟨hrv, rfl⟩⟩
  · exact ⟨mark, hready.trans ((if_neg hs).trans hmark), hwritten, fun hs' => absurd hs' hs⟩

theorem accounted_decode {record : DecodeRecord} (ha : Accounted seen harq)
    (h : resolve record.message tti cfi cell harq = .ok record.config ready)
    (hhanded : record.handed = ready.buffer) {after : HarqBuffers}
    (hleft : record.left = after.buffer) (hmarks : after.mark? = ready.mark?)
    (hunused : ∀ slot : Slot, record.config.grant.nofBlocks ≤ slot.val →
      record.left slot = record.handed slot) :
    Accounted (.decode record :: seen) after := by
  intro slot block position value hbit hv
  rw [← hleft] at hbit
  rw [hmarks]
  by_cases hwrites : (record.handed slot).bit? block position = some value
  · -- the bit was there before the call, so its writer is an earlier one
    rw [hhanded] at hwrites
    obtain ⟨mark, hmark, hwritten, hcontinues⟩ := written_of_resolve ha h hwrites hv
    exact ⟨mark, hmark, hwritten.cons hcontinues⟩
  · -- the bit is new, so this call wrote it, and that only in a slot it uses
    have huses : record.Uses slot := Nat.lt_of_not_le fun hs =>
      hwrites ((hunused slot hs).symm ▸ hbit)
    refine ⟨_, (mark?_of_resolve h).trans (if_pos huses), ?_⟩
    exact written_self huses ⟨hwrites, hbit⟩

theorem accounted_resetAll (harq : HarqBuffers) : Accounted (.clear :: seen) harq.resetAll := by
  intro slot block position value hbit hv
  rw [HarqBuffers.buffer_resetAll] at hbit
  exact absurd ((SoftBuffer.isClear_reset _).1 block position value hbit) hv

theorem accounted_empty : Accounted [] .empty := by
  intro slot block position value hbit
  rw [HarqBuffers.buffer_empty, SoftBuffer.bit?, SoftBuffer.block?_eq_none (Nat.zero_le _)] at hbit
  cases hbit

/-! ## Every run -/

namespace Downlink

variable {σ : Type} {antennas : Nat} {blocks : Blocks σ cell antennas}
  {start : Downlink σ cell antennas}

/-- **In every run all soft bits that are set are accounted for.** -/
theorem accounted_after {s : σ} (hblocks : blocks.WritesUsed)
    (hstart : ofCell cell antennas s = .ok start) (history : List DownlinkEvent) :
    Accounted (softEvents blocks start history) (after blocks start history).harq := by
  induction history with
  | nil =>
    show Accounted [] start.harq
    have hempty : start.harq = .empty := congrArg (·.1) (settled_ofCell hstart)
    rw [hempty]
    exact accounted_empty
  | cons event past ih =>
    show Accounted ((softEvent? blocks (after blocks start past) event).toList ++ _)
      (perform blocks (after blocks start past) event).harq
    cases hseen : softEvent? blocks (after blocks start past) event with
    | none =>
      rw [harq_perform_of_none hseen]
      exact ih
    | some seen =>
      rcases softEvent?_eq_some hseen with ⟨rfl, rfl⟩ | ⟨record, hrecord, rfl⟩
      · exact accounted_resetAll _
      · obtain ⟨tti, cfi, harq, hresolve, hhanded, hleft, hmarks, hunused⟩ :=
          harq_perform_of_record? hrecord
        exact accounted_decode ih hresolve hhanded hleft hmarks (hunused hblocks)

/--
**Where the soft bits of a grant come from.**

A soft bit that the decoder of shared data is handed set, in a slot that the grant uses, was written
by an earlier call to it. The grant of that call used the slot with the same mark, and nothing has
cleared the slot since. It was for the same terminal if no grant for another one used the slot with
this mark.
-/
theorem written_of_handed {s : σ} (hblocks : blocks.WritesUsed)
    (hstart : ofCell cell antennas s = .ok start) (history : List DownlinkEvent)
    {event : DownlinkEvent} {record : DecodeRecord}
    (hrecord : record? blocks (after blocks start history) event = some record) {slot : Slot}
    (huses : record.Uses slot) {block position : Nat} {value : Int16}
    (hbit : (record.handed slot).bit? block position = some value) (hv : value ≠ 0) :
    Written (softEvents blocks start history) slot (record.message.markAt slot) block position
        value ∧
      record.message.fields.rv? ≠ none ∧
      ((∀ other, .decode other ∈ softEvents blocks start history → other.Uses slot →
          other.message.markAt slot = record.message.markAt slot → other.rnti = record.rnti) →
        ∃ writer, .decode writer ∈ softEvents blocks start history ∧
          writer.rnti = record.rnti ∧ writer.Writes slot block position value) := by
  obtain ⟨tti, cfi, harq, hresolve, hhanded, -⟩ := harq_perform_of_record? hrecord
  have ha := accounted_after hblocks hstart history
  rw [hhanded] at hbit
  obtain ⟨mark, -, hwritten, hcontinues⟩ := written_of_resolve ha hresolve hbit hv
  obtain ⟨hrv, rfl⟩ := hcontinues huses
  refine ⟨hwritten, hrv, fun hsame => ?_⟩
  obtain ⟨newer, writer, older, hseen, hwriter, hmark, hwrites, -⟩ := hwritten
  have hmem : .decode writer ∈ softEvents blocks start history := by
    rw [hseen]
    exact List.mem_append_right newer List.mem_cons_self
  exact ⟨writer, hmem, hsame writer hmem hwriter hmark, hwrites⟩

/-! ## Two terminals with one mark -/

/-- A grant of one block of 40 bits, with a signalled redundancy version. -/
def shortGrant : DciMessage :=
  { format := .format1A
    fields := { (default : DciFields) with
      rv? := some 0
      enabled := #v[true, false]
      mcs := #v[⟨0, 40⟩, ⟨0, 0⟩] } }

/-- Blocks that find the same grant in every subframe, each time for the next identity, and that set
one soft bit of it. Their state is the number of subframes. -/
def takingTurns : Blocks UInt16 cellOfTwoPorts 1 where
  demodulate _ := pure ()
  estimate _ _ := pure ()
  controlFormat _ _ _ := pure 3
  softBits _ _ _ _ := modify (· + 1)
  messages := ⟨fun _ _ s => .ok ⟨shortGrant, 0x45 + s⟩ s⟩
  sharedData config _ _ _ := fun (buffers, s) =>
    let written := Vector.ofFn fun slot : Slot =>
      if slot.val < config.grant.nofBlocks then (buffers.get slot).apply (.bit 0 0 7)
      else buffers.get slot
    .ok ⟨[], []⟩ (written, s)
  phichResource _ _ := ⟨0, 0⟩
  acknowledgement _ _ _ _ := pure false

theorem get_sharedData_takingTurns (config : PdschConfig) (grids : Grids cellOfTwoPorts 1)
    (estimate : CellEstimate cellOfTwoPorts 1) (rnti : Rnti) (buffers : Vector SoftBuffer 2)
    (s : UInt16) (slot : Slot) :
    (stateAfter (takingTurns.sharedData config grids estimate rnti (buffers, s))).1.get slot =
      if slot.val < config.grant.nofBlocks then (buffers.get slot).apply (.bit 0 0 7)
      else buffers.get slot := by
  simp only [takingTurns, stateAfter, Vector.get, Vector.toArray_ofFn, Array.getElem_ofFn]
  rfl

theorem takingTurns_writesUsed : takingTurns.WritesUsed := by
  intro config grids estimate rnti buffers s slot
  rw [get_sharedData_takingTurns]
  by_cases hused : slot.val < config.grant.nofBlocks
  · rw [if_pos hused]
    exact ⟨[.bit 0 0 7], fun h => absurd hused (Nat.not_lt.mpr h), rfl⟩
  · rw [if_neg hused]
    exact ⟨[], fun _ => rfl, rfl⟩

/-- A subframe for the first identity. -/
def firstTurn : List DownlinkEvent :=
  [.process 0 0 [#[]] ⟨0x46⟩]

/-- A subframe for the second one. -/
def secondTurn : DownlinkEvent :=
  .process 0 1 [#[]] ⟨0x47⟩

/-- The second terminal is handed the soft bit that was set for the first one. -/
theorem handed_secondTurn : ∃ start record, ofCell cellOfTwoPorts 1 (0 : UInt16) = .ok start ∧
    record? takingTurns (after takingTurns start firstTurn) secondTurn = some record ∧
    record.Uses 0 ∧ record.rnti = ⟨0x47⟩ ∧ (record.handed 0).bit? 0 0 = some 7 ∧
    ∀ other, .decode other ∈ softEvents takingTurns start firstTurn → other.rnti = ⟨0x46⟩ := by
  obtain ⟨start, hstart, hfirst, hsecond⟩ : ∃ start,
      ofCell cellOfTwoPorts 1 (0 : UInt16) = .ok start ∧
      (softEvent? takingTurns start (.process 0 0 [#[]] ⟨0x46⟩)).map
        (fun | .decode record => record.rnti | .clear => ⟨0⟩) = some ⟨0x46⟩ ∧
      (record? takingTurns (after takingTurns start firstTurn) secondTurn).map
        (fun record => (record.config.grant.nofBlocks, record.rnti, record.handed 0)) =
          some (1, ⟨0x47⟩, (SoftBuffer.empty.resetFor 40).apply (.bit 0 0 7)) :=
    ⟨_, rfl, rfl, rfl⟩
  obtain ⟨record, hrecord, hfacts⟩ := Option.map_eq_some_iff.mp hsecond
  simp only [Prod.mk.injEq] at hfacts
  obtain ⟨hnof, hrnti, hhanded⟩ := hfacts
  refine ⟨start, record, hstart, hrecord, ?_, hrnti, ?_, fun other hother => ?_⟩
  · rw [DecodeRecord.Uses, hnof]
    decide
  · rw [hhanded]
    exact (SoftBuffer.hasRoom_resetFor _ _).bit?_apply (by decide) (by decide) 7
  · have hmem : .decode other ∈
        (softEvent? takingTurns start (.process 0 0 [#[]] ⟨0x46⟩)).toList := by
      simpa [softEvents, firstTurn, after] using hother
    rw [Option.mem_toList] at hmem
    rw [hmem] at hfirst
    exact Option.some.inj hfirst

theorem written_of_handed_secondTurn :
    ∃ start record, ofCell cellOfTwoPorts 1 (0 : UInt16) = .ok start ∧
      record? takingTurns (after takingTurns start firstTurn) secondTurn = some record ∧
      (record.handed 0).bit? 0 0 = some 7 ∧
      Written (softEvents takingTurns start firstTurn) 0 (record.message.markAt 0) 0 0 7 := by
  obtain ⟨start, record, hstart, hrecord, huses, -, hbit, -⟩ := handed_secondTurn
  have hwritten := (written_of_handed takingTurns_writesUsed hstart firstTurn hrecord huses hbit
    (by decide)).1
  exact ⟨start, record, hstart, hrecord, hbit, hwritten⟩

/-- **Soft bits are not always those of an earlier grant for the same terminal.** -/
theorem not_always_sameRnti :
    ¬ ∀ (σ : Type) (cell : CellConfig) (antennas : Nat) (blocks : Blocks σ cell antennas) (s : σ)
      (start : Downlink σ cell antennas) (history : List DownlinkEvent) (event : DownlinkEvent)
      (record : DecodeRecord) (slot : Slot) (block position : Nat) (value : Int16),
      blocks.WritesUsed → ofCell cell antennas s = .ok start →
      record? blocks (after blocks start history) event = some record → record.Uses slot →
      (record.handed slot).bit? block position = some value → value ≠ 0 →
      ∃ writer, .decode writer ∈ softEvents blocks start history ∧
        writer.rnti = record.rnti ∧ writer.Writes slot block position value := by
  intro h
  obtain ⟨start, record, hstart, hrecord, huses, hrnti, hbit, hothers⟩ := handed_secondTurn
  obtain ⟨writer, hmem, hsame, -⟩ := h UInt16 cellOfTwoPorts 1 takingTurns 0 start firstTurn
    secondTurn record 0 0 0 7 takingTurns_writesUsed hstart hrecord huses hbit (by decide)
  have hrntis : (⟨0x46⟩ : Rnti) = ⟨0x47⟩ := by rw [← hothers writer hmem, hsame, hrnti]
  exact absurd hrntis (by decide)

end Downlink

end LteReceiver
