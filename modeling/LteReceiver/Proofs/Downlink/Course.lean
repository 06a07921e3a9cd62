import LteReceiver.Proofs.Downlink.Plan
import LteReceiver.Proofs.Downlink.Provenance

/-!
# The course of a subframe

`Received` says what the first part of a subframe does: the calls it makes by the plan, and the
message it answers. From there a subframe takes one of four courses (`Course`): it fails, it holds
no message, its message is not resolved, or its data are decoded, which is one more call.

Everything that is observed of a subframe can be read off its course (`course_processSubframe`).
Here that is the order of the calls and what each kind of error stands for
(`calls_of_processSubframe`).
-/

namespace LteReceiver

/-! ## The outcome of a grant -/

/-- A resolved grant, and what the decoder of shared data answers to it. -/
structure GrantOutcome where
  config : PdschConfig
  answer : Except ExternalError DecodedData

namespace GrantOutcome

/-- Whether each transport block is acknowledged. Blocks that the decoder says nothing about are
not, and none is when it fails. -/
def acks (outcome : GrantOutcome) : List Bool :=
  match outcome.answer with
  | .ok decoded => firstEntries outcome.config.grant.nofBlocks false decoded.acks
  | .error _ => .replicate outcome.config.grant.nofBlocks false

/-- What a subframe answers after a grant. -/
def result (outcome : GrantOutcome) : Except ReceiveError SubframeResult :=
  match outcome.answer with
  | .ok decoded => .ok (.data (outcome.config.grant.mcs.get ⟨0, Nat.zero_lt_two⟩).tbs outcome.acks
      (firstEntries outcome.config.grant.nofBlocks none decoded.data))
  | .error e => .error (.decode (.sharedChannel e))

end GrantOutcome

/-! ## The first part -/

/-- The errors that refuse a subframe, with their reasons. -/
inductive Refusal (antennas subframe : Nat) (inputs : List (Array Sample)) (rnti : Rnti) :
    ReceiveError → Prop where
  | subframeIndex (h : subframesPerFrame ≤ subframe) :
      Refusal antennas subframe inputs rnti (.configuration (.subframeIndex subframe))
  | inputCount (h : inputs.length < antennas) :
      Refusal antennas subframe inputs rnti (.configuration (.inputCount antennas inputs.length))
  | rntiUnset (h : rnti.isAssigned = false) :
      Refusal antennas subframe inputs rnti (.configuration .rntiUnset)

variable {σ : Type} {cell : CellConfig} {antennas : Nat}

namespace Downlink

/-- The requests from samples to the number of control symbols. -/
def formatPlan (downlink : Downlink σ cell antennas) (inputs : List (Array Sample))
    (subframe : Nat) (grids : Grids cell antennas) (estimate : CellEstimate cell antennas) :
    List (BlockRequest cell antennas) :=
  (List.finRange antennas).map (demodulation inputs downlink.grids) ++
    [.estimate grids downlink.estimate subframe, .controlFormat grids estimate subframe]

/-- The requests of the first part of a subframe, given what becomes known on the way: the grids,
the estimate, the number of control symbols and the state of the blocks before the lookup. -/
def receivePlan (blocks : Blocks σ cell antennas) (downlink : Downlink σ cell antennas)
    (inputs : List (Array Sample)) (subframe : Nat) (rnti : Rnti) (grids : Grids cell antennas)
    (estimate : CellEstimate cell antennas) (cfi : Nat) (state : σ) :
    List (BlockRequest cell antennas) :=
  downlink.formatPlan inputs subframe grids estimate ++
    ([.softBits grids estimate subframe cfi] ++
      lookupPlan blocks downlink state cfi subframe rnti)

/-- The requests one after the other. -/
theorem receivePlan_eq (blocks : Blocks σ cell antennas) (downlink : Downlink σ cell antennas)
    (inputs : List (Array Sample)) (subframe : Nat) (rnti : Rnti) (grids : Grids cell antennas)
    (estimate : CellEstimate cell antennas) (cfi : Nat) (state : σ) :
    receivePlan blocks downlink inputs subframe rnti grids estimate cfi state =
      (List.finRange antennas).map (fun antenna =>
        .demodulate (inputs.getD antenna.val #[]) (downlink.grids.get antenna)) ++
      [.estimate grids downlink.estimate subframe, .controlFormat grids estimate subframe,
        .softBits grids estimate subframe cfi] ++
      lookupPlan blocks downlink state cfi subframe rnti := by
  simp only [receivePlan, formatPlan, List.append_assoc, List.cons_append, List.nil_append]
  rfl

/-- What the first part of a subframe does. -/
structure Received (blocks : Blocks σ cell antennas) (downlink : Downlink σ cell antennas)
    (subframe : Nat) (inputs : List (Array Sample)) (rnti : Rnti)
    (answer : Except ReceiveError (Option (DciMessage × Nat))) (after : Downlink σ cell antennas)
    (calls : List (BlockCall cell antennas)) : Prop where
  planned : ∃ grids estimate cfi state, (1 ≤ cfi ∧ cfi ≤ maxCfi) ∧
    Orderly (Refusal antennas subframe inputs rnti)
      (receivePlan blocks downlink inputs subframe rnti grids estimate cfi state) answer calls ∧
    ∀ found, answer = .ok found → channel after = (grids, estimate)
  inFrame : calls ≠ [] → subframe < subframesPerFrame
  messages : calls.filterMap (·.found? rnti) = (answer.toOption.join.map (·.1)).toList
  formats : ∀ message cfi, answer = .ok (some (message, cfi)) →
    calls.filterMap (·.cfi?) = [cfi]

variable {blocks : Blocks σ cell antennas} {downlink : Downlink σ cell antennas} {subframe : Nat}
  {inputs : List (Array Sample)} {rnti : Rnti}

/-- A refused subframe makes no call. -/
theorem Received.refused {e : ReceiveError} (h : Refusal antennas subframe inputs rnti e)
    (after : Downlink σ cell antennas) :
    Received blocks downlink subframe inputs rnti (.error e) after [] where
  planned := ⟨downlink.grids, downlink.estimate, 1, downlink.blockState, ⟨Nat.le_refl 1, by decide⟩,
    .stopped _ h, fun _ hok => nomatch hok⟩
  inFrame := fun hne => absurd rfl hne
  messages := rfl
  formats := fun _ _ hok => nomatch hok

/-- No message is looked for before the number of control symbols is known. -/
theorem message_notMem_formatPlan (grids : Grids cell antennas)
    (estimate : CellEstimate cell antennas) (location : DciLocation) (format : DciFormat) :
    .message location format ∉ downlink.formatPlan inputs subframe grids estimate := by
  simp [formatPlan, demodulation]

/-- **The first part of a subframe makes its calls by the plan.** -/
theorem received_receiveMessage :
    Meets (receiveMessage blocks.recorded subframe inputs rnti)
      (receiveMessage blocks subframe inputs rnti) downlink
      (Received blocks downlink subframe inputs rnti) := by
  unfold receiveMessage
  by_cases hsubframe : subframesPerFrame ≤ subframe
  · rw [if_pos hsubframe, if_pos hsubframe]
    exact ⟨[], makes_throw _, .refused (.subframeIndex hsubframe) downlink⟩
  rw [if_neg hsubframe, if_neg hsubframe]
  have hframe : subframe < subframesPerFrame := Nat.not_le.mp hsubframe
  by_cases hfew : inputs.length < antennas
  · unfold decodeSamples
    rw [if_pos hfew, if_pos hfew]
    exact ⟨[], makes_throw _, .refused (.inputCount hfew) downlink⟩
  have hinputs : antennas ≤ inputs.length := Nat.not_lt.mp hfew
  refine ((meets_decodeSamples (Refusal antennas subframe inputs rnti) hinputs hframe).keeping
    (keeps_beforeLookup_decodeSamples inputs subframe)).bind ?_ ?_
  · rintro cfi opened calls ⟨⟨grids, estimate, hcalls, hready⟩, hopened⟩
    obtain ⟨hrange, hcfis, hchannel⟩ := hready cfi rfl
    obtain ⟨rfl, rfl⟩ := Prod.mk.inj hchannel
    refine (meets_searchControl (Refusal antennas subframe inputs rnti)
      ⟨hrange.1, hrange.2, hframe⟩ fun hrnti => .rntiUnset hrnti).mono ?_
    rintro answer final more ⟨⟨state, hmore⟩, hmessages, hcfi, hfinal⟩
    rw [lookupPlan_congr hopened] at hmore
    have hcallsNone : calls.filterMap (·.found? rnti) = [] :=
      hcalls.filterMap_found?_eq_nil (message_notMem_formatPlan _ _) rnti
    have hmoreNone : more.filterMap (·.cfi?) = [] :=
      hmore.filterMap_cfi?_eq_nil (by simp [lookupPlan])
    refine
      { planned := ⟨opened.grids, opened.estimate, cfi, state, hrange, hcalls.append hmore,
          fun _ _ => hfinal⟩
        inFrame := fun _ => hframe
        messages := ?_
        formats := fun message n hok => ?_ }
    · rw [List.filterMap_append, hcallsNone, hmessages, List.nil_append]
    · rw [hcfi message n hok, List.filterMap_append, hcfis, hmoreNone, List.append_nil]
  · rintro e opened calls ⟨⟨grids, estimate, hcalls, -⟩, -⟩
    exact
      { planned := ⟨grids, estimate, 1, downlink.blockState, ⟨Nat.le_refl 1, by decide⟩,
          hcalls.append_of_error _, fun _ hok => by cases hok⟩
        inFrame := fun _ => hframe
        messages := hcalls.filterMap_found?_eq_nil (message_notMem_formatPlan _ _) rnti
        formats := fun _ _ hok => by cases hok }

/-! ## The whole subframe -/

/-- The run of the decoder of shared data for a grant, on soft buffers that are ready for it. -/
def sharedRun (blocks : Blocks σ cell antennas) (downlink : Downlink σ cell antennas) (rnti : Rnti)
    (config : PdschConfig) (harq : HarqBuffers) :
    EStateM.Result ExternalError (Vector SoftBuffer 2 × σ) DecodedData :=
  blocks.sharedData config downlink.grids downlink.estimate rnti
    (harq.buffers, downlink.blockState)

/-- A downlink after the data of a grant: the soft buffers were made ready and handed to the
decoder, and the grant is kept and counted. -/
def finished (downlink : Downlink σ cell antennas) (outcome : GrantOutcome) (harq : HarqBuffers)
    (buffers : Vector SoftBuffer 2) (state : σ) : Downlink σ cell antennas :=
  { downlink with
    harq := { harq with buffers := buffers }
    blockState := state
    config? := some outcome.config
    metrics := downlink.metrics.countGrant.countBlocks outcome.acks }

/-- The courses that a subframe can take. -/
inductive Course (blocks : Blocks σ cell antennas) (downlink : Downlink σ cell antennas)
    (frame : UInt32) (subframe : Nat) (inputs : List (Array Sample)) (rnti : Rnti) :
    Except ReceiveError SubframeResult → Downlink σ cell antennas →
      List (BlockCall cell antennas) → Prop where
  /-- The first part fails. -/
  | failed {e : ReceiveError} {after : Downlink σ cell antennas}
      {calls : List (BlockCall cell antennas)}
      (hreceived : Received blocks downlink subframe inputs rnti (.error e) after calls)
      (hrun : receiveMessage blocks subframe inputs rnti downlink = .error e after) :
      Course blocks downlink frame subframe inputs rnti (.error e) after calls
  /-- There is no message. -/
  | silent {after : Downlink σ cell antennas} {calls : List (BlockCall cell antennas)}
      (hreceived : Received blocks downlink subframe inputs rnti (.ok none) after calls)
      (hrun : receiveMessage blocks subframe inputs rnti downlink = .ok none after) :
      Course blocks downlink frame subframe inputs rnti (.ok .noMessage) after calls
  /-- The message is not resolved. -/
  | rejected {message : DciMessage} {cfi : Nat} {fault : UnsupportedFault}
      {after : Downlink σ cell antennas} {calls : List (BlockCall cell antennas)}
      (hreceived : Received blocks downlink subframe inputs rnti (.ok (some (message, cfi))) after
        calls)
      (hrun : receiveMessage blocks subframe inputs rnti downlink =
        .ok (some (message, cfi)) after)
      (hresolve : resolve message (transmissionTime frame subframe) cfi cell downlink.harq =
        .error (.unsupported fault) downlink.harq) :
      Course blocks downlink frame subframe inputs rnti (.error (.unsupported fault)) after calls
  /-- The data are handed to their decoder, which is the last call. -/
  | decoded {message : DciMessage} {cfi : Nat} {config : PdschConfig} {harq : HarqBuffers}
      {found : Downlink σ cell antennas} {calls : List (BlockCall cell antennas)}
      {answer : Except ExternalError DecodedData} {buffers : Vector SoftBuffer 2} {state : σ}
      (hreceived : Received blocks downlink subframe inputs rnti (.ok (some (message, cfi))) found
        calls)
      (hrun : receiveMessage blocks subframe inputs rnti downlink =
        .ok (some (message, cfi)) found)
      (hresolve : resolve message (transmissionTime frame subframe) cfi cell downlink.harq =
        .ok config harq)
      (hanswer : answerOf (sharedRun blocks found rnti config harq) = answer)
      (hleft : stateAfter (sharedRun blocks found rnti config harq) = (buffers, state)) :
      Course blocks downlink frame subframe inputs rnti (GrantOutcome.mk config answer).result
        (found.finished ⟨config, answer⟩ harq buffers state)
        (calls ++ [⟨.sharedData config found.grids found.estimate rnti harq.buffers, answer⟩])

variable {frame : UInt32}

/-- A message is resolved without a call. -/
theorem meets_resolveMessage (message : DciMessage) (tti : UInt32) (cfi : Nat) :
    Meets (resolveMessage message tti cfi) (resolveMessage message tti cfi) downlink
      fun answer after calls => calls = [] ∧
        ((∃ fault, answer = .error (.unsupported fault) ∧ after = downlink ∧
          resolve message tti cfi cell downlink.harq = .error (.unsupported fault) downlink.harq) ∨
        ∃ config harq, answer = .ok config ∧
          after = { downlink with
            harq := harq
            config? := some config
            metrics := downlink.metrics.countGrant } ∧
          resolve message tti cfi cell downlink.harq = .ok config harq) := by
  have hmakes : Makes (resolveMessage message tti cfi) (resolveMessage message tti cfi) downlink
      [] := by
    intro notes
    rw [resolveMessage_eq, resolveMessage_eq, List.append_nil]
    simp only [noting]
    cases resolve message tti cfi cell downlink.harq <;> rfl
  refine ⟨[], hmakes, rfl, ?_⟩
  rw [resolveMessage_eq, resolve]
  cases PdschConfig.ofMessage message tti cfi cell with
  | error fault => exact .inl ⟨fault, rfl, rfl, rfl⟩
  | ok config => exact .inr ⟨config, _, rfl, rfl, rfl⟩

theorem makes_decodeData (config : PdschConfig) :
    Makes (decodeData blocks.recorded config rnti) (decodeData blocks config rnti) downlink
      [⟨.sharedData config downlink.grids downlink.estimate rnti downlink.harq.buffers,
        answerOf (sharedRun blocks downlink rnti config downlink.harq)⟩] := by
  have hshared : Makes (runSharedData blocks.recorded config rnti)
      (runSharedData blocks config rnti) downlink
      [⟨.sharedData config downlink.grids downlink.estimate rnti downlink.harq.buffers,
        answerOf (sharedRun blocks downlink rnti config downlink.harq)⟩] := by
    refine makes_get (fun _ => rfl) ?_
    dsimp only [Blocks.recorded]
    exact makes_on (fun _ => rfl) (fun _ _ _ _ => rfl)
  intro notes
  unfold decodeData
  rw [hshared notes]
  cases runSharedData blocks config rnti downlink <;> rfl

variable (blocks downlink rnti) in
theorem decodeData_eq (config : PdschConfig) :
    let run := sharedRun blocks downlink rnti config downlink.harq
    let outcome : GrantOutcome := ⟨config, answerOf run⟩
    answerOf (decodeData blocks config rnti downlink) = outcome.result ∧
    stateAfter (decodeData blocks config rnti downlink) =
      { downlink with
        harq := { downlink.harq with buffers := (stateAfter run).1 }
        blockState := (stateAfter run).2
        metrics := downlink.metrics.countBlocks outcome.acks } := by
  unfold decodeData
  rw [runSharedData_eq]
  unfold sharedRun
  cases blocks.sharedData config downlink.grids downlink.estimate rnti
    (downlink.harq.buffers, downlink.blockState) <;> exact ⟨rfl, rfl⟩

/-- **A subframe takes one of the courses.** -/
theorem course_processSubframe (blocks : Blocks σ cell antennas)
    (downlink : Downlink σ cell antennas) (frame : UInt32) (subframe : Nat)
    (inputs : List (Array Sample)) (rnti : Rnti) :
    Meets (processSubframe blocks.recorded frame subframe inputs rnti)
      (processSubframe blocks frame subframe inputs rnti) downlink
      (Course blocks downlink frame subframe inputs rnti) := by
  rw [processSubframe_eq, processSubframe_eq]
  refine received_receiveMessage.run.bind ?_ ?_
  · rintro (_ | ⟨message, cfi⟩) found calls ⟨hreceived, hanswer, rfl⟩
    · refine ⟨[], makes_pure _, ?_⟩
      show Course blocks downlink frame subframe inputs rnti (.ok .noMessage) _ (calls ++ [])
      rw [List.append_nil]
      exact .silent hreceived (eq_ok_of_answerOf hanswer)
    · have hharq : (stateAfter (receiveMessage blocks subframe inputs rnti downlink)).harq =
          downlink.harq :=
        congrArg (·.1) (keeps_settled_receiveMessage subframe inputs rnti downlink)
      refine (meets_resolveMessage message (transmissionTime frame subframe) cfi).bind ?_ ?_
      · rintro config _ _ ⟨rfl, ⟨_, herror, -⟩ | ⟨_, harq, hok, rfl, hresolve⟩⟩
        · cases herror
        · cases hok
          rw [hharq] at hresolve
          refine ⟨_, makes_decodeData config, ?_⟩
          show Course blocks downlink frame subframe inputs rnti
            (answerOf (decodeData blocks config rnti _))
            (stateAfter (decodeData blocks config rnti _)) _
          obtain ⟨hdata, hafter⟩ := decodeData_eq blocks _ rnti config
          rw [hdata, hafter]
          exact .decoded hreceived (eq_ok_of_answerOf hanswer) hresolve rfl rfl
      · rintro _ _ _ ⟨rfl, ⟨fault, herror, rfl, hresolve⟩ | ⟨_, _, hok, -⟩⟩
        · cases herror
          rw [hharq] at hresolve
          rw [List.append_nil]
          exact .rejected hreceived (eq_ok_of_answerOf hanswer) hresolve
        · cases hok
  · rintro e after calls ⟨hreceived, hanswer, rfl⟩
    exact .failed hreceived (eq_error_of_answerOf hanswer)

/-! ## The order of the calls -/

theorem subframe_of_resolve {message : DciMessage} {cfi : Nat} {config : PdschConfig}
    {before harq : HarqBuffers} (hframe : subframe < subframesPerFrame)
    (h : resolve message (transmissionTime frame subframe) cfi cell before = .ok config harq) :
    config.subframe = subframe := by
  rw [(ofMessage_fields (resolve_eq_ok_iff.mp h).1).2.1, transmissionTime_mod hframe]

variable {answer : Except ReceiveError SubframeResult} {after : Downlink σ cell antennas}
  {calls : List (BlockCall cell antennas)}

/-- A message is found by a call. -/
theorem Received.ne_nil {message : DciMessage} {cfi : Nat}
    (h : Received blocks downlink subframe inputs rnti (.ok (some (message, cfi))) after calls) :
    calls ≠ [] := by
  intro hnil
  have hmessages := h.messages
  rw [hnil] at hmessages
  cases hmessages

/-- The errors of a subframe that no failed call stands for. -/
inductive Stops (antennas subframe : Nat) (inputs : List (Array Sample)) (rnti : Rnti) :
    ReceiveError → Prop where
  | refused {e : ReceiveError} (h : Refusal antennas subframe inputs rnti e) :
      Stops antennas subframe inputs rnti e
  | rejected (fault : UnsupportedFault) :
      Stops antennas subframe inputs rnti (.unsupported fault)

/-- The plan of a subframe with some answer: the shared data come after the first part, unless there
is no message or it is not supported. -/
def planFor (received : List (BlockRequest cell antennas)) (shared : BlockRequest cell antennas) :
    Except ReceiveError SubframeResult → List (BlockRequest cell antennas)
  | .ok .noMessage => received
  | .error (.unsupported _) => received
  | _ => received ++ [shared]

theorem planFor_isPrefix (received : List (BlockRequest cell antennas))
    (shared : BlockRequest cell antennas) (answer : Except ReceiveError SubframeResult) :
    planFor received shared answer <+: received ++ [shared] := by
  unfold planFor
  split
  · exact List.prefix_append _ _
  · exact List.prefix_append _ _
  · exact List.prefix_refl _

/-- After an error nothing more is called, whatever is planned. -/
theorem orderly_planFor_of_error {stops : ReceiveError → Prop} {α : Type}
    {received : List (BlockRequest cell antennas)} {e : ReceiveError}
    (h : Orderly stops received (.error e : Except ReceiveError α) calls)
    (shared : BlockRequest cell antennas) :
    Orderly stops (planFor received shared (.error e))
      (.error e : Except ReceiveError SubframeResult) calls := by
  obtain ⟨rest, hrest⟩ : ∃ rest, planFor received shared (.error e) = received ++ rest := by
    cases e with
    | unsupported fault => exact ⟨[], (List.append_nil received).symm⟩
    | configuration fault | decode fault | outOfRange => exact ⟨[shared], rfl⟩
  rw [hrest]
  exact h.append_of_error rest

/-- All calls of a subframe are made in the order of its plan. -/
theorem Course.orderly (h : Course blocks downlink frame subframe inputs rnti answer after calls) :
    ∃ grids estimate cfi state config buffers, (1 ≤ cfi ∧ cfi ≤ maxCfi) ∧
      config.subframe = subframe ∧
      Orderly (Stops antennas subframe inputs rnti)
        (planFor (receivePlan blocks downlink inputs subframe rnti grids estimate cfi state)
          (.sharedData config grids estimate rnti buffers) answer) answer calls := by
  -- any configuration will do where the shared data are not reached
  let unused : PdschConfig :=
    ⟨.ofFields default, 1, subframe, .replicate 2 0, .singleAntenna, 0, 1⟩
  cases h with
  | failed hreceived _ =>
    obtain ⟨grids, estimate, cfi, state, hrange, hcalls, -⟩ := hreceived.planned
    exact ⟨grids, estimate, cfi, state, unused, downlink.harq.buffers, hrange, rfl,
      (orderly_planFor_of_error hcalls _).mono fun _ => .refused⟩
  | silent hreceived _ =>
    obtain ⟨grids, estimate, cfi, state, hrange, hcalls, -⟩ := hreceived.planned
    have hsilent := hcalls.map fun _ => SubframeResult.noMessage
    exact ⟨grids, estimate, cfi, state, unused, downlink.harq.buffers, hrange, rfl,
      hsilent.mono fun _ => .refused⟩
  | @rejected _ _ fault _ _ hreceived _ _ =>
    obtain ⟨grids, estimate, cfi, state, hrange, hcalls, -⟩ := hreceived.planned
    have hstopped : Orderly (Stops antennas subframe inputs rnti) []
        (.error (.unsupported fault) : Except ReceiveError SubframeResult)
        ([] : List (BlockCall cell antennas)) := .stopped [] (.rejected fault)
    have hrejected := (hcalls.mono fun _ => Stops.refused).append hstopped
    rw [List.append_nil, List.append_nil] at hrejected
    exact ⟨grids, estimate, cfi, state, unused, downlink.harq.buffers, hrange, rfl, hrejected⟩
  | @decoded _ _ config harq found _ answer _ _ hreceived _ hresolve _ _ =>
    obtain ⟨grids, estimate, cfi, state, hrange, hcalls, hchannel⟩ := hreceived.planned
    obtain ⟨rfl, rfl⟩ := Prod.mk.inj (hchannel _ rfl)
    have hframe := hreceived.inFrame hreceived.ne_nil
    refine ⟨found.grids, found.estimate, cfi, state, config, harq.buffers, hrange,
      subframe_of_resolve hframe hresolve, ?_⟩
    let request : BlockRequest cell antennas :=
      .sharedData config found.grids found.estimate rnti harq.buffers
    cases answer with
    | error e =>
      have hfault : BlockCall.fault? ⟨request, .error e⟩ = some (.sharedChannel e) := rfl
      exact (hcalls.mono fun _ => .refused).append (.failed [] hfault)
    | ok decoded =>
      have hpassed : BlockCall.fault? ⟨request, .ok decoded⟩ = none := rfl
      exact (hcalls.mono fun _ => .refused).append (.passed hpassed (.done _))

theorem Course.inFrame (h : Course blocks downlink frame subframe inputs rnti answer after calls)
    (hcalls : calls ≠ []) : subframe < subframesPerFrame := by
  cases h with
  | failed hreceived _ => exact hreceived.inFrame hcalls
  | silent hreceived _ => exact hreceived.inFrame hcalls
  | rejected hreceived _ _ => exact hreceived.inFrame hcalls
  | decoded hreceived _ _ _ _ => exact hreceived.inFrame hreceived.ne_nil

/-- A call found a message, and another one answered the number of control symbols. -/
def Finds (rnti : Rnti) (calls : List (BlockCall cell antennas)) (message : DciMessage)
    (cfi : Nat) : Prop :=
  (∃ call ∈ calls, call.found? rnti = some message) ∧ ∃ call ∈ calls, call.cfi? = some cfi

/-- The first part of a subframe answers the message that its calls find. -/
theorem Received.finds_iff {answer : Except ReceiveError (Option (DciMessage × Nat))}
    (h : Received blocks downlink subframe inputs rnti answer after calls) {message : DciMessage}
    {cfi : Nat} : Finds rnti calls message cfi ↔ answer = .ok (some (message, cfi)) := by
  unfold Finds
  rw [← List.mem_filterMap, ← List.mem_filterMap, h.messages]
  rcases answer with e | (_ | ⟨found, n⟩)
  · simp [Except.toOption]
  · simp [Except.toOption]
  · simp [Except.toOption, h.formats found n rfl, eq_comm]

/-- The call for shared data finds no message. -/
theorem finds_append_shared {config : PdschConfig} {grids : Grids cell antennas}
    {estimate : CellEstimate cell antennas} {buffers : Vector SoftBuffer 2}
    {answer : Except ExternalError DecodedData} {message : DciMessage} {cfi : Nat} :
    Finds rnti (calls ++ [⟨.sharedData config grids estimate rnti buffers, answer⟩]) message cfi ↔
      Finds rnti calls message cfi := by
  simp [Finds, BlockCall.found?, BlockCall.cfi?, or_and_right, exists_or]

/-- A subframe is unsupported exactly if a message is found that is not resolved. -/
theorem Course.unsupported_iff
    (h : Course blocks downlink frame subframe inputs rnti answer after calls)
    (fault : UnsupportedFault) :
    answer = .error (.unsupported fault) ↔
      ∃ message cfi, Finds rnti calls message cfi ∧
        answerOf (resolve message (transmissionTime frame subframe) cfi cell downlink.harq) =
          .error (.unsupported fault) := by
  cases h with
  | failed hreceived _ =>
    refine ⟨fun herror => ?_, fun ⟨message, cfi, hfinds, _⟩ => ?_⟩
    · obtain ⟨_, _, _, _, _, hcalls, _⟩ := hreceived.planned
      cases herror
      rcases hcalls.decode_or_stops with ⟨_, hdecode⟩ | hrefusal
      · cases hdecode
      · cases hrefusal
    · cases hreceived.finds_iff.mp hfinds
  | silent hreceived _ =>
    refine ⟨fun herror => (nomatch herror), fun ⟨message, cfi, hfinds, _⟩ => ?_⟩
    cases hreceived.finds_iff.mp hfinds
  | @rejected message cfi found _ _ hreceived _ hresolve =>
    have hanswer : answerOf (resolve message (transmissionTime frame subframe) cfi cell
        downlink.harq) = .error (.unsupported found) := by rw [hresolve]; rfl
    refine ⟨fun herror => ⟨message, cfi, hreceived.finds_iff.mpr rfl, ?_⟩,
      fun ⟨message', cfi', hfinds, hreject⟩ => ?_⟩
    · cases herror
      exact hanswer
    · cases hreceived.finds_iff.mp hfinds
      cases hanswer.symm.trans hreject
      rfl
  | @decoded message cfi config harq _ _ answer _ _ hreceived _ hresolve _ _ =>
    refine ⟨fun herror => ?_, fun ⟨message', cfi', hfinds, hreject⟩ => ?_⟩
    · cases answer <;> cases herror
    · cases hreceived.finds_iff.mp (finds_append_shared.mp hfinds)
      rw [hresolve] at hreject
      cases hreject

/-- The calls of a subframe, as they are seen of it. -/
def subframeCalls (blocks : Blocks σ cell antennas) (downlink : Downlink σ cell antennas)
    (frame : UInt32) (subframe : Nat) (inputs : List (Array Sample)) (rnti : Rnti) :
    List (BlockCall cell antennas) :=
  callsOf (processSubframe blocks.recorded frame subframe inputs rnti (downlink.noting []))

/-- Taking notes changes nothing of a subframe. -/
theorem processSubframe_recorded (notes : List (BlockCall cell antennas)) :
    processSubframe blocks.recorded frame subframe inputs rnti (downlink.noting notes) =
      withNotes (notes ++ subframeCalls blocks downlink frame subframe inputs rnti)
        (processSubframe blocks frame subframe inputs rnti downlink) := by
  obtain ⟨calls, hmakes, -⟩ := course_processSubframe blocks downlink frame subframe inputs rnti
  rw [subframeCalls, hmakes.callsOf_eq, hmakes notes]

theorem course_subframeCalls (blocks : Blocks σ cell antennas) (downlink : Downlink σ cell antennas)
    (frame : UInt32) (subframe : Nat) (inputs : List (Array Sample)) (rnti : Rnti) :
    Course blocks downlink frame subframe inputs rnti
      (answerOf (processSubframe blocks frame subframe inputs rnti downlink))
      (stateAfter (processSubframe blocks frame subframe inputs rnti downlink))
      (subframeCalls blocks downlink frame subframe inputs rnti) := by
  obtain ⟨calls, hmakes, hcourse⟩ :=
    course_processSubframe blocks downlink frame subframe inputs rnti
  rw [subframeCalls, hmakes.callsOf_eq]
  exact hcourse

/--
**The calls of a subframe.**

The blocks are called in a fixed order: demodulation for every antenna, channel estimation, the
number of control symbols, their soft bits, the candidates of the lookup and the shared data, which
are planned unless no message is found or its grant is not supported. All are called for the
subframe at hand, which is in the frame, and the soft bits for a number of control symbols that
there can be. Calls are made as planned until one fails, and no call follows that one (`Orderly`).

Decoding fails exactly if a call does. A subframe is unsupported exactly if a message is found that
is not resolved. It is refused for its number, too few inputs and an identity that is not assigned
only: what a lookup refuses besides never turns up.
-/
theorem calls_of_processSubframe (blocks : Blocks σ cell antennas)
    (downlink : Downlink σ cell antennas) (frame : UInt32) (subframe : Nat)
    (inputs : List (Array Sample)) (rnti : Rnti) :
    let calls := subframeCalls blocks downlink frame subframe inputs rnti
    let answer := answerOf (processSubframe blocks frame subframe inputs rnti downlink)
    (∃ grids estimate cfi state config buffers, (1 ≤ cfi ∧ cfi ≤ maxCfi) ∧
      config.subframe = subframe ∧
      let received :=
        (List.finRange antennas).map (fun antenna =>
          .demodulate (inputs.getD antenna.val #[]) (downlink.grids.get antenna)) ++
        [.estimate grids downlink.estimate subframe, .controlFormat grids estimate subframe,
          .softBits grids estimate subframe cfi] ++
        lookupPlan blocks downlink state cfi subframe rnti
      let shared := .sharedData config grids estimate rnti buffers
      Orderly (Stops antennas subframe inputs rnti) (planFor received shared answer) answer
        calls ∧
      calls.map (·.request) <+: received ++ [shared]) ∧
    (calls ≠ [] → subframe < subframesPerFrame) ∧
    (∀ call ∈ calls.dropLast, ¬ call.Fails) ∧
    ((∃ fault, answer = .error (.decode fault)) ↔ ∃ call ∈ calls, call.Fails) ∧
    (∀ fault, answer = .error (.unsupported fault) ↔
      ∃ message cfi, Finds rnti calls message cfi ∧
        answerOf (resolve message (transmissionTime frame subframe) cfi cell downlink.harq) =
          .error (.unsupported fault)) ∧
    ∀ fault, answer = .error (.configuration fault) →
      Refusal antennas subframe inputs rnti (.configuration fault) ∧
        (∀ cfi, fault ≠ .cfiRange cfi) ∧ ∀ cfi n, fault ≠ .noSearchSpace cfi n := by
  intro calls answer
  have hcourse := course_subframeCalls blocks downlink frame subframe inputs rnti
  obtain ⟨grids, estimate, cfi, state, config, buffers, hrange, hconfig, hcalls⟩ := hcourse.orderly
  have hnotDecode (fault : DecodeFault) : ¬ Stops antennas subframe inputs rnti (.decode fault) :=
    fun hstops => by cases hstops; contradiction
  refine ⟨⟨grids, estimate, cfi, state, config, buffers, hrange, hconfig, ?_⟩, hcourse.inFrame,
    hcalls.not_fails_of_dropLast, hcalls.decode_iff hnotDecode, hcourse.unsupported_iff, ?_⟩
  · rw [receivePlan_eq] at hcalls
    exact ⟨hcalls, hcalls.isPrefix.trans (planFor_isPrefix _ _ _)⟩
  · intro fault hfault
    have hstops : Stops antennas subframe inputs rnti (.configuration fault) := by
      rw [show answerOf _ = Except.error (.configuration fault) from hfault] at hcalls
      exact hcalls.decode_or_stops.resolve_left fun ⟨_, hdecode⟩ => nomatch hdecode
    cases hstops with
    | refused hrefusal =>
      refine ⟨hrefusal, fun cfi => ?_, fun cfi n => ?_⟩
      · rintro rfl
        cases hrefusal
      · rintro rfl
        cases hrefusal

/-- Of six calls for a grant the last one is for its shared data. -/
theorem calls_of_processSubframe_firstTurn :
    ∃ start, ofCell cellOfTwoPorts 1 (0 : UInt16) = .ok start ∧
      answerOf (processSubframe takingTurns 0 0 [#[]] ⟨0x46⟩ start) =
        .ok (.data 40 [false] [none]) ∧
      (subframeCalls takingTurns start 0 0 [#[]] ⟨0x46⟩).length = 6 ∧
      ∃ config grids estimate buffers, config.subframe = 0 ∧
        ((subframeCalls takingTurns start 0 0 [#[]] ⟨0x46⟩).map (·.request)).getLast? =
          some (.sharedData config grids estimate ⟨0x46⟩ buffers) := by
  obtain ⟨start, hstart, hanswer, hlength⟩ : ∃ start,
      ofCell cellOfTwoPorts 1 (0 : UInt16) = .ok start ∧
      answerOf (processSubframe takingTurns 0 0 [#[]] ⟨0x46⟩ start) =
        .ok (.data 40 [false] [none]) ∧
      (subframeCalls takingTurns start 0 0 [#[]] ⟨0x46⟩).length = 6 := ⟨_, rfl, rfl, rfl⟩
  obtain ⟨⟨grids, estimate, cfi, state, config, buffers, -, hconfig, hcalls, -⟩, -⟩ :=
    calls_of_processSubframe takingTurns start 0 0 [#[]] ⟨0x46⟩
  rw [hanswer] at hcalls
  refine ⟨start, hstart, hanswer, hlength, config, grids, estimate, buffers, hconfig, ?_⟩
  rw [hcalls.requests_eq]
  exact List.getLast?_concat

end Downlink

end LteReceiver
