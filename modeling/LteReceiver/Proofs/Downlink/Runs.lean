import LteReceiver.Proofs.Downlink.Stages
import LteReceiver.Proofs.Transport.Resolve
import LteReceiver.Proofs.Transport.SoftBits

/-!
# Runs of a downlink

A downlink goes through subframes, settings and requests (`DownlinkEvent`), in any order.
`Downlink.after` is its state after a history, which lists its events with the latest first.

Of all that, the soft buffers see two kinds of events only (`SoftEvent`): the decoding of a grant,
which makes them ready and hands them to the decoder of shared data, and the clearing of everything.
The others leave them alone (`harq_perform_of_none`).
-/

namespace LteReceiver

/-- What can be asked of a downlink. -/
inductive DownlinkEvent where
  | process (frame : UInt32) (subframe : Nat) (inputs : List (Array Sample)) (rnti : Rnti)
  | decodeSamples (inputs : List (Array Sample)) (subframe : Nat)
  | decodeEstimate (subframe : Nat)
  | findDownlink (cfi subframe : Nat) (rnti : Rnti)
  | findUplink (cfi subframe : Nat) (rnti : Rnti)
  | decodeAcknowledgement (subframe lowestPrb cyclicShift : Nat)
  | setRnti (rnti : Rnti)
  | setMode (mode : TransmissionMode)
  | setSampleOffset (offset : Float32)
  | reset

/-- A call to the decoder of shared data: the grant and whom it is for, and the soft buffers that
the decoder is handed and those that it leaves. -/
structure DecodeRecord where
  rnti : Rnti
  message : DciMessage
  config : PdschConfig
  handed : Slot → SoftBuffer
  left : Slot → SoftBuffer

/-- What the soft buffers of a downlink see. -/
inductive SoftEvent where
  | decode (record : DecodeRecord)
  | clear

variable {σ : Type} {cell : CellConfig} {antennas : Nat}

/-- The decoder of shared data only writes soft bits and checksum results, and only in the slots
that a grant uses, whether it answers or fails. -/
def Blocks.WritesUsed (blocks : Blocks σ cell antennas) : Prop :=
  ∀ (config : PdschConfig) (grids : Grids cell antennas) (estimate : CellEstimate cell antennas)
    (rnti : Rnti) (buffers : Vector SoftBuffer 2) (s : σ) (slot : Slot),
    ∃ writes : List SoftWrite, (config.grant.nofBlocks ≤ slot.val → writes = []) ∧
      (stateAfter (blocks.sharedData config grids estimate rnti (buffers, s))).1.get slot =
        writes.foldl SoftBuffer.apply (buffers.get slot)

namespace Downlink

variable (blocks : Blocks σ cell antennas)

/-- The downlink after an event, whether that is answered or fails. -/
def perform (downlink : Downlink σ cell antennas) : DownlinkEvent → Downlink σ cell antennas
  | .process frame subframe inputs rnti =>
    stateAfter (processSubframe blocks frame subframe inputs rnti downlink)
  | .decodeSamples inputs subframe => stateAfter (decodeSamples blocks inputs subframe downlink)
  | .decodeEstimate subframe => stateAfter (decodeEstimate blocks subframe downlink)
  | .findDownlink cfi subframe rnti => stateAfter (findDownlink blocks cfi subframe rnti downlink)
  | .findUplink cfi subframe rnti => stateAfter (findUplink blocks cfi subframe rnti downlink)
  | .decodeAcknowledgement subframe lowestPrb cyclicShift =>
    stateAfter (decodeAcknowledgement blocks subframe lowestPrb cyclicShift downlink)
  | .setRnti rnti => (downlink.setRnti rnti).toOption.getD downlink
  | .setMode mode => downlink.setMode mode
  | .setSampleOffset offset => downlink.setSampleOffset offset
  | .reset => downlink.reset

/-- The downlink after a history. -/
def after (start : Downlink σ cell antennas) : List DownlinkEvent → Downlink σ cell antennas
  | [] => start
  | event :: past => perform blocks (after start past) event

/-- The call to the decoder of shared data that an event makes, if it makes one. -/
def record? (downlink : Downlink σ cell antennas) : DownlinkEvent → Option DecodeRecord
  | .process frame subframe inputs rnti =>
    match receiveMessage blocks subframe inputs rnti downlink with
    | .ok (some (message, cfi)) found =>
      match resolveMessage message (transmissionTime frame subframe) cfi found with
      | .ok config ready =>
        let finished := stateAfter (decodeData blocks config rnti ready)
        some ⟨rnti, message, config, ready.harq.buffer, finished.harq.buffer⟩
      | .error _ _ => none
    | _ => none
  | _ => none

/-- What the soft buffers see of an event. -/
def softEvent? (downlink : Downlink σ cell antennas) : DownlinkEvent → Option SoftEvent
  | .reset => some .clear
  | event => (record? blocks downlink event).map .decode

/-- What the soft buffers have seen in a history, the latest first. -/
def softEvents (start : Downlink σ cell antennas) : List DownlinkEvent → List SoftEvent
  | [] => []
  | event :: past =>
    (softEvent? blocks (after blocks start past) event).toList ++ softEvents start past

variable {blocks}

/-! ## The second part of a subframe -/

theorem resolveMessage_eq (message : DciMessage) (tti : UInt32) (cfi : Nat)
    (downlink : Downlink σ cell antennas) :
    resolveMessage message tti cfi downlink =
      match resolve message tti cfi cell downlink.harq with
      | .ok config harq => .ok config { downlink with
          harq := harq
          config? := some config
          metrics := downlink.metrics.countGrant }
      | .error error harq => .error error { downlink with harq := harq } := by
  show EStateM.bind (on _ _ _ _) _ downlink = _
  unfold EStateM.bind on
  dsimp only
  cases resolve message tti cfi cell downlink.harq <;> rfl

theorem resolve_of_resolveMessage {message : DciMessage} {tti : UInt32} {cfi : Nat}
    {downlink ready : Downlink σ cell antennas} {config : PdschConfig}
    (h : resolveMessage message tti cfi downlink = .ok config ready) :
    resolve message tti cfi cell downlink.harq = .ok config ready.harq := by
  rw [resolveMessage_eq] at h
  split at h
  next hr => cases h; exact hr
  next => cases h

/-- A message that is not resolved leaves the downlink alone. -/
theorem eq_of_resolveMessage_error {message : DciMessage} {tti : UInt32} {cfi : Nat}
    {downlink after : Downlink σ cell antennas} {error : ReceiveError}
    (h : resolveMessage message tti cfi downlink = .error error after) : after = downlink := by
  rw [resolveMessage_eq] at h
  split at h
  next => cases h
  next hr => cases h; rw [resolve_eq_error hr]

theorem runSharedData_eq (config : PdschConfig) (rnti : Rnti)
    (downlink : Downlink σ cell antennas) :
    runSharedData blocks config rnti downlink =
      match blocks.sharedData config downlink.grids downlink.estimate rnti
          (downlink.harq.buffers, downlink.blockState) with
      | .ok decoded (buffers, state) => .ok decoded { downlink with
          harq := { downlink.harq with buffers := buffers }
          blockState := state }
      | .error e (buffers, state) => .error (.decode (.sharedChannel e)) { downlink with
          harq := { downlink.harq with buffers := buffers }
          blockState := state } := by
  rw [runSharedData, get_bind, on]
  cases blocks.sharedData config downlink.grids downlink.estimate rnti
    (downlink.harq.buffers, downlink.blockState) <;> rfl

/-- The decoder of shared data works on the soft buffers, and on nothing else of them. -/
theorem harq_decodeData (config : PdschConfig) (rnti : Rnti) (ready : Downlink σ cell antennas) :
    (stateAfter (decodeData blocks config rnti ready)).harq =
      { ready.harq with
        buffers := (stateAfter (blocks.sharedData config ready.grids ready.estimate rnti
          (ready.harq.buffers, ready.blockState))).1 } := by
  rw [decodeData, runSharedData_eq]
  cases blocks.sharedData config ready.grids ready.estimate rnti
    (ready.harq.buffers, ready.blockState) <;> rfl

/-- The second part of a subframe leaves alone what has nothing to do with grants. -/
theorem keeps_decodeMessage {γ : Type} {part : Downlink σ cell antennas → γ}
    (h : ∀ (downlink : Downlink σ cell antennas) harq config? metrics state,
      part { downlink with
        harq := harq, config? := config?, metrics := metrics, blockState := state } =
          part downlink)
    (frame : UInt32) (subframe : Nat) (rnti : Rnti) (found : Option (DciMessage × Nat)) :
    Keeps part (decodeMessage blocks frame subframe rnti found) := by
  cases found with
  | none => exact keeps_pure _
  | some pair =>
    obtain ⟨message, cfi⟩ := pair
    have hresolve : Keeps part
        (resolveMessage message (transmissionTime frame subframe) cfi :
          Action σ cell antennas PdschConfig) :=
      (keeps_on fun downlink harq => h downlink harq _ _ _).bind fun config =>
        (keeps_modify fun downlink => h downlink _ (some config) _ _).bind fun _ =>
          keeps_pure config
    refine hresolve.bind fun config downlink => ?_
    rw [decodeData, runSharedData_eq]
    cases blocks.sharedData config downlink.grids downlink.estimate rnti
        (downlink.harq.buffers, downlink.blockState) with
    | ok decoded left => exact h downlink _ _ _ left.2
    | error e left => exact h downlink _ _ _ left.2

/-! ## One event -/

variable {downlink : Downlink σ cell antennas} {event : DownlinkEvent}

variable (blocks downlink) in
/-- A subframe without a message, or with one that is not resolved, leaves alone what is settled. In
any other the message is resolved and its data are decoded. -/
theorem process_cases (frame : UInt32) (subframe : Nat) (inputs : List (Array Sample))
    (rnti : Rnti) :
    (record? blocks downlink (.process frame subframe inputs rnti) = none ∧
      settled (perform blocks downlink (.process frame subframe inputs rnti)) = settled downlink) ∨
    ∃ message cfi found config ready,
      settled found = settled downlink ∧
        resolveMessage message (transmissionTime frame subframe) cfi found = .ok config ready ∧
        perform blocks downlink (.process frame subframe inputs rnti) =
          stateAfter (decodeData blocks config rnti ready) ∧
        record? blocks downlink (.process frame subframe inputs rnti) =
          some ⟨rnti, message, config, ready.harq.buffer,
            (stateAfter (decodeData blocks config rnti ready)).harq.buffer⟩ := by
  have hreceive : settled (stateAfter (receiveMessage blocks subframe inputs rnti downlink)) =
      settled downlink := keeps_settled_receiveMessage subframe inputs rnti downlink
  have hprocess : perform blocks downlink (.process frame subframe inputs rnti) =
      stateAfter (EStateM.bind (receiveMessage blocks subframe inputs rnti)
        (decodeMessage blocks frame subframe rnti) downlink) := by
    rw [perform, processSubframe_eq]
    rfl
  rw [hprocess, record?]
  unfold EStateM.bind
  cases hr : receiveMessage blocks subframe inputs rnti downlink with
  | error e found =>
    rw [hr] at hreceive
    exact .inl ⟨rfl, hreceive⟩
  | ok answer found =>
    rw [hr] at hreceive
    cases answer with
    | none => exact .inl ⟨rfl, hreceive⟩
    | some pair =>
      obtain ⟨message, cfi⟩ := pair
      have hdecode : decodeMessage blocks frame subframe rnti (some (message, cfi)) =
          EStateM.bind (resolveMessage message (transmissionTime frame subframe) cfi)
            (decodeData blocks · rnti) := rfl
      dsimp only
      rw [hdecode]
      unfold EStateM.bind
      cases hm : resolveMessage message (transmissionTime frame subframe) cfi found with
      | error e rejected =>
        obtain rfl := eq_of_resolveMessage_error hm
        exact .inl ⟨rfl, hreceive⟩
      | ok config ready =>
        exact .inr ⟨message, cfi, found, config, ready, hreceive, hm, rfl, rfl⟩

variable (blocks downlink) in
/-- What that means to the soft buffers: they are left alone, or made ready and handed to the
decoder of shared data. -/
theorem harq_process (frame : UInt32) (subframe : Nat) (inputs : List (Array Sample))
    (rnti : Rnti) :
    (record? blocks downlink (.process frame subframe inputs rnti) = none ∧
      (perform blocks downlink (.process frame subframe inputs rnti)).harq = downlink.harq) ∨
    ∃ message tti cfi config ready,
      resolve message tti cfi cell downlink.harq = .ok config ready.harq ∧
        (perform blocks downlink (.process frame subframe inputs rnti)).harq =
          (stateAfter (decodeData blocks config rnti ready)).harq ∧
        record? blocks downlink (.process frame subframe inputs rnti) =
          some ⟨rnti, message, config, ready.harq.buffer,
            (stateAfter (decodeData blocks config rnti ready)).harq.buffer⟩ := by
  rcases process_cases blocks downlink frame subframe inputs rnti with
    ⟨hnone, hsettled⟩ | ⟨message, cfi, found, config, ready, hsettled, hm, hafter, hrecord⟩
  · exact .inl ⟨hnone, congrArg Prod.fst hsettled⟩
  · -- the message is resolved against the buffers from before the subframe
    have hfound : found.harq = downlink.harq := congrArg Prod.fst hsettled
    exact .inr ⟨message, _, cfi, config, ready, hfound ▸ resolve_of_resolveMessage hm,
      congrArg (·.harq) hafter, hrecord⟩

/-! ## Events without a grant -/

/-- What grants leave behind is part of what is settled. -/
theorem kept_of_settled {other : Downlink σ cell antennas}
    (h : settled other = settled downlink) :
    other.harq = downlink.harq ∧ other.config? = downlink.config? ∧
      other.metrics = downlink.metrics := by
  simp only [settled, Prod.mk.injEq] at h
  exact ⟨h.1, h.2.1, h.2.2.1⟩

/-- Only a subframe or a reset changes what grants leave behind: the soft bits, the last
configuration and the counts. -/
theorem kept_perform
    (hprocess : ∀ frame subframe inputs rnti, event ≠ .process frame subframe inputs rnti)
    (hreset : event ≠ .reset) :
    (perform blocks downlink event).harq = downlink.harq ∧
      (perform blocks downlink event).config? = downlink.config? ∧
      (perform blocks downlink event).metrics = downlink.metrics := by
  cases event with
  | process frame subframe inputs rnti => exact absurd rfl (hprocess frame subframe inputs rnti)
  | decodeSamples inputs subframe =>
    exact kept_of_settled (keeps_settled_decodeSamples inputs subframe downlink)
  | decodeEstimate subframe =>
    exact kept_of_settled (keeps_settled_decodeEstimate subframe downlink)
  | findDownlink cfi subframe rnti =>
    exact kept_of_settled (keeps_settled_findDownlink cfi subframe rnti downlink)
  | findUplink cfi subframe rnti =>
    exact kept_of_settled (keeps_settled_findUplink cfi subframe rnti downlink)
  | decodeAcknowledgement subframe lowestPrb cyclicShift =>
    exact kept_of_settled
      (keeps_settled_decodeAcknowledgement subframe lowestPrb cyclicShift downlink)
  | setRnti rnti =>
    simp only [perform, setRnti]
    split <;> exact ⟨rfl, rfl, rfl⟩
  | setMode | setSampleOffset => exact ⟨rfl, rfl, rfl⟩
  | reset => exact absurd rfl hreset

/-- An event that the soft buffers do not see leaves them alone. -/
theorem harq_perform_of_none (h : softEvent? blocks downlink event = none) :
    (perform blocks downlink event).harq = downlink.harq := by
  cases event with
  | process frame subframe inputs rnti =>
    rcases harq_process blocks downlink frame subframe inputs rnti with
      ⟨-, hkeeps⟩ | ⟨message, tti, cfi, config, ready, -, -, hrecord⟩
    · exact hkeeps
    · have hseen : softEvent? blocks downlink (.process frame subframe inputs rnti) =
          some (.decode _) := congrArg (Option.map SoftEvent.decode) hrecord
      cases hseen.symm.trans h
  | reset => cases h
  | _ => exact (kept_perform (by simp) (by simp)).1

/-- What the soft buffers see of an event is a reset, or a call to the decoder of shared data. -/
theorem softEvent?_eq_some {seen : SoftEvent} (h : softEvent? blocks downlink event = some seen) :
    (event = .reset ∧ seen = .clear) ∨
      ∃ record, record? blocks downlink event = some record ∧ seen = .decode record := by
  cases event with
  | reset => exact .inl ⟨rfl, (Option.some.inj h).symm⟩
  | process frame subframe inputs rnti =>
    obtain ⟨record, hrecord, hseen⟩ := Option.map_eq_some_iff.mp h
    exact .inr ⟨record, hrecord, hseen.symm⟩
  | decodeSamples | decodeEstimate | findDownlink | findUplink | decodeAcknowledgement | setRnti
  | setMode | setSampleOffset => cases h

/-- A decoding is that of a resolved message. It leaves the marks, and if the decoder writes to the
slots that are used only, the other buffers. -/
theorem harq_perform_of_record? {record : DecodeRecord}
    (h : record? blocks downlink event = some record) :
    ∃ tti cfi harq, resolve record.message tti cfi cell downlink.harq = .ok record.config harq ∧
      record.handed = harq.buffer ∧ record.left = (perform blocks downlink event).harq.buffer ∧
      (perform blocks downlink event).harq.mark? = harq.mark? ∧
      (blocks.WritesUsed → ∀ slot : Slot, record.config.grant.nofBlocks ≤ slot.val →
        record.left slot = record.handed slot) := by
  cases event with
  | process frame subframe inputs rnti =>
    rcases harq_process blocks downlink frame subframe inputs rnti with
      ⟨hnone, -⟩ | ⟨message, tti, cfi, config, ready, hresolve, hafter, hrecord⟩
    · cases hnone.symm.trans h
    · obtain rfl := Option.some.inj (hrecord.symm.trans h)
      rw [hafter]
      refine ⟨tti, cfi, ready.harq, hresolve, rfl, rfl, ?_, fun hblocks slot hslot => ?_⟩
      · rw [harq_decodeData]
        rfl
      · obtain ⟨writes, hwrites, hleft⟩ := hblocks config ready.grids ready.estimate rnti
          ready.harq.buffers ready.blockState slot
        rw [hwrites hslot] at hleft
        dsimp only
        rw [harq_decodeData]
        exact hleft
  | decodeSamples | decodeEstimate | findDownlink | findUplink | decodeAcknowledgement | setRnti
  | setMode | setSampleOffset | reset => cases h

end Downlink

end LteReceiver
