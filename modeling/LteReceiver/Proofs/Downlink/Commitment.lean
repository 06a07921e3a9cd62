import LteReceiver.Proofs.Downlink.Course

/-!
# What a subframe changes for good

The soft buffers, the configuration and the counters of a downlink are touched late: only when a
message was found and resolved, and then the decoder of shared data is called at once. Whether that
was reached can be told from the answer (`fromSharedData`). If it was not, all three are as they
were (`changes_of_processSubframe`), whatever else the failed stages left behind.
-/

namespace LteReceiver

variable {σ : Type} {cell : CellConfig} {antennas : Nat}

/-- Whether an answer comes from the decoder of shared data. -/
def fromSharedData : Except ReceiveError SubframeResult → Bool
  | .ok (.data ..) => true
  | .error (.decode (.sharedChannel _)) => true
  | _ => false

theorem GrantOutcome.fromSharedData_result (outcome : GrantOutcome) :
    fromSharedData outcome.result = true := by
  unfold GrantOutcome.result
  split <;> rfl

/-- Whether shared data are requested. -/
def BlockRequest.isSharedData : BlockRequest cell antennas → Bool
  | .sharedData .. => true
  | _ => false

/-- Only the decoder of shared data is reported as failing in the shared channel. -/
theorem BlockCall.isSharedData_of_fault? {call : BlockCall cell antennas} {e : ExternalError}
    (h : call.fault? = some (.sharedChannel e)) : call.request.isSharedData = true := by
  obtain ⟨request, answer⟩ := call
  cases request with
  | sharedData => rfl
  | controlFormat =>
    cases answer with
    | error e => cases h
    | ok cfi =>
      simp only [fault?] at h
      split at h <;> cases h
  | demodulate | estimate | softBits | message | acknowledgement => cases answer <;> cases h

namespace Downlink

variable {blocks : Blocks σ cell antennas} {downlink after : Downlink σ cell antennas}
  {frame : UInt32} {subframe : Nat} {inputs : List (Array Sample)} {rnti : Rnti}
  {calls : List (BlockCall cell antennas)}

/-! ## Before a message is resolved -/

theorem isSharedData_of_mem_receivePlan {grids : Grids cell antennas}
    {estimate : CellEstimate cell antennas} {cfi : Nat} {state : σ}
    {request : BlockRequest cell antennas}
    (h : request ∈ receivePlan blocks downlink inputs subframe rnti grids estimate cfi state) :
    request.isSharedData = false := by
  cases request with
  | sharedData =>
    simp [receivePlan, formatPlan, demodulation, lookupPlan] at h
  | demodulate | estimate | controlFormat | softBits | message | acknowledgement => rfl

/-- The first part of a subframe does not call the decoder of shared data. -/
theorem Received.isSharedData_of_mem {answer : Except ReceiveError (Option (DciMessage × Nat))}
    (h : Received blocks downlink subframe inputs rnti answer after calls)
    {call : BlockCall cell antennas} (hmem : call ∈ calls) :
    call.request.isSharedData = false := by
  obtain ⟨_, _, _, _, _, hcalls, _⟩ := h.planned
  exact isSharedData_of_mem_receivePlan (hcalls.request_mem hmem)

theorem Received.filter_isSharedData {answer : Except ReceiveError (Option (DciMessage × Nat))}
    (h : Received blocks downlink subframe inputs rnti answer after calls) :
    calls.filter (·.request.isSharedData) = [] := by
  refine List.filter_eq_nil_iff.mpr fun call hmem => ?_
  rw [h.isSharedData_of_mem hmem]
  exact Bool.false_ne_true

/-- So its errors are not those of that decoder. -/
theorem Received.fromSharedData_error {e : ReceiveError}
    (h : Received blocks downlink subframe inputs rnti (.error e) after calls) :
    fromSharedData (.error e) = false := by
  obtain ⟨_, _, _, _, _, hcalls, _⟩ := h.planned
  unfold fromSharedData
  split
  next herror => cases herror
  next cause herror =>
    cases herror
    have hnotDecode (fault : DecodeFault) :
        ¬ Refusal antennas subframe inputs rnti (.decode fault) := fun hrefusal => by cases hrefusal
    obtain ⟨call, hmem, hfault⟩ := (hcalls.fault_iff hnotDecode (.sharedChannel cause)).mp rfl
    have hshared := BlockCall.isSharedData_of_fault? hfault
    rw [h.isSharedData_of_mem hmem] at hshared
    cases hshared
  next => rfl

/-! ## The whole subframe -/

/-- Without the decoder of shared data nothing of a grant is kept. -/
theorem Course.settled_of_fromSharedData_eq_false {answer : Except ReceiveError SubframeResult}
    (h : Course blocks downlink frame subframe inputs rnti answer after calls)
    (hanswer : fromSharedData answer = false) :
    settled after = settled downlink ∧ calls.filter (·.request.isSharedData) = [] := by
  have hkeeps : settled (stateAfter (receiveMessage blocks subframe inputs rnti downlink)) =
      settled downlink := keeps_settled_receiveMessage subframe inputs rnti downlink
  cases h with
  | failed hreceived hrun =>
    rw [hrun] at hkeeps
    exact ⟨hkeeps, hreceived.filter_isSharedData⟩
  | silent hreceived hrun =>
    rw [hrun] at hkeeps
    exact ⟨hkeeps, hreceived.filter_isSharedData⟩
  | rejected hreceived hrun _ =>
    rw [hrun] at hkeeps
    exact ⟨hkeeps, hreceived.filter_isSharedData⟩
  | decoded =>
    rw [GrantOutcome.fromSharedData_result] at hanswer
    cases hanswer

/-- The decoder of shared data runs once, on the soft buffers of a resolved message. -/
theorem Course.decoded_of_fromSharedData {answer : Except ReceiveError SubframeResult}
    (h : Course blocks downlink frame subframe inputs rnti answer after calls)
    (hanswer : fromSharedData answer = true) :
    ∃ message cfi config harq found given buffers state,
      resolve message (transmissionTime frame subframe) cfi cell downlink.harq = .ok config harq ∧
      answerOf (sharedRun blocks found rnti config harq) = given ∧
      stateAfter (sharedRun blocks found rnti config harq) = (buffers, state) ∧
      answer = (GrantOutcome.mk config given).result ∧
      after = found.finished ⟨config, given⟩ harq buffers state ∧
      calls.filter (·.request.isSharedData) =
        [⟨.sharedData config found.grids found.estimate rnti harq.buffers, given⟩] := by
  cases h with
  | failed hreceived _ =>
    rw [hreceived.fromSharedData_error] at hanswer
    cases hanswer
  | silent => cases hanswer
  | rejected => cases hanswer
  | @decoded message cfi config harq found _ given buffers state hreceived _ hresolve hgiven
      hleft =>
    refine ⟨message, cfi, config, harq, found, given, buffers, state, hresolve, hgiven, hleft, rfl,
      rfl, ?_⟩
    rw [List.filter_append, hreceived.filter_isSharedData]
    rfl

/--
**What a subframe changes.**

A subframe without a message, and one that fails before its message is resolved, leaves the soft
buffers, the configuration and the counters as they were, and does not call the decoder of shared
data.

Any other one makes the soft buffers ready for its message and calls that decoder once, with them.
Whether or not the decoder fails, the configuration is then that of the message, the slots of the
message carry its marks, and all that the decoder has changed are the buffers it was handed.
-/
theorem changes_of_processSubframe (blocks : Blocks σ cell antennas)
    (downlink : Downlink σ cell antennas) (frame : UInt32) (subframe : Nat)
    (inputs : List (Array Sample)) (rnti : Rnti) :
    let answer := answerOf (processSubframe blocks frame subframe inputs rnti downlink)
    let after := stateAfter (processSubframe blocks frame subframe inputs rnti downlink)
    let shared := (subframeCalls blocks downlink frame subframe inputs rnti).filter
      (·.request.isSharedData)
    (fromSharedData answer = false →
      after.harq = downlink.harq ∧ after.config? = downlink.config? ∧
        after.metrics = downlink.metrics ∧ shared = []) ∧
    (fromSharedData answer = true →
      ∃ message cfi config harq grids estimate state,
        let run := blocks.sharedData config grids estimate rnti (harq.buffers, state)
        resolve message (transmissionTime frame subframe) cfi cell downlink.harq =
          .ok config harq ∧
        shared = [⟨.sharedData config grids estimate rnti harq.buffers, answerOf run⟩] ∧
        (∀ e, answer = .error (.decode (.sharedChannel e)) ↔ answerOf run = .error e) ∧
        after.config? = some config ∧
        (∀ slot : Slot, slot.val < config.grant.nofBlocks →
          after.harq.mark? slot = some (message.markAt slot)) ∧
        after.harq = { harq with buffers := (stateAfter run).1 }) := by
  intro answer after shared
  have hcourse := course_subframeCalls blocks downlink frame subframe inputs rnti
  refine ⟨fun hanswer => ?_, fun hanswer => ?_⟩
  · obtain ⟨hsettled, hshared⟩ := hcourse.settled_of_fromSharedData_eq_false hanswer
    obtain ⟨hharq, hconfig, hmetrics⟩ := kept_of_settled hsettled
    exact ⟨hharq, hconfig, hmetrics, hshared⟩
  · obtain ⟨message, cfi, config, harq, found, given, buffers, state, hresolve, hgiven, hleft,
      hresult, hafter, hshared⟩ := hcourse.decoded_of_fromSharedData hanswer
    have hharq : after.harq = { harq with buffers := buffers } := congrArg (·.harq) hafter
    obtain rfl : (stateAfter (sharedRun blocks found rnti config harq)).1 = buffers :=
      congrArg Prod.fst hleft
    obtain rfl := hgiven
    refine ⟨message, cfi, config, harq, found.grids, found.estimate, found.blockState, hresolve,
      hshared, fun e => ?_, congrArg (·.config?) hafter, fun slot hslot => ?_, hharq⟩
    · show answerOf _ = _ ↔ answerOf (sharedRun blocks found rnti config harq) = _
      rw [hresult]
      cases answerOf (sharedRun blocks found rnti config harq) with
      | error cause => simp [GrantOutcome.result]
      | ok decoded => simp [GrantOutcome.result]
    · have hmark : after.harq.mark? slot = harq.mark? slot := by
        rw [hharq]
        rfl
      rw [hmark, mark?_of_resolve hresolve, if_pos hslot]

/-- A grant whose block is not acknowledged: the decoder was called once, and its configuration and
its mark stay. -/
theorem changes_of_processSubframe_firstTurn :
    ∃ start, ofCell cellOfTwoPorts 1 (0 : UInt16) = .ok start ∧
      let after := stateAfter (processSubframe takingTurns 0 0 [#[]] ⟨0x46⟩ start)
      ((subframeCalls takingTurns start 0 0 [#[]] ⟨0x46⟩).filter
        (·.request.isSharedData)).length = 1 ∧
      start.config? = none ∧ after.config?.isSome ∧
      start.harq.mark? ⟨0, Nat.zero_lt_two⟩ = none ∧
      (after.harq.mark? ⟨0, Nat.zero_lt_two⟩).isSome := by
  obtain ⟨start, hstart, hanswer, hconfig, hmark, hgrant⟩ : ∃ start,
      ofCell cellOfTwoPorts 1 (0 : UInt16) = .ok start ∧
      fromSharedData (answerOf (processSubframe takingTurns 0 0 [#[]] ⟨0x46⟩ start)) = true ∧
      start.config? = none ∧ start.harq.mark? ⟨0, Nat.zero_lt_two⟩ = none ∧
      (stateAfter (processSubframe takingTurns 0 0 [#[]] ⟨0x46⟩ start)).config?.map
        (·.grant.nofBlocks) = some 1 := ⟨_, rfl, rfl, rfl, rfl, rfl⟩
  obtain ⟨message, cfi, config, harq, grids, estimate, state, -, hshared, -, hafter, hmarks, -⟩ :=
    (changes_of_processSubframe takingTurns start 0 0 [#[]] ⟨0x46⟩).2 hanswer
  rw [hafter] at hgrant
  have hone : config.grant.nofBlocks = 1 := Option.some.inj hgrant
  refine ⟨start, hstart, ?_, hconfig, ?_, hmark, ?_⟩
  · rw [hshared]
    rfl
  · rw [hafter]
    rfl
  · rw [hmarks ⟨0, Nat.zero_lt_two⟩ (by rw [hone]; exact Nat.zero_lt_one)]
    rfl

end Downlink

end LteReceiver
