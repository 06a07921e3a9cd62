import LteReceiver.Proofs.Control.Candidates
import LteReceiver.Proofs.Downlink.Calls

/-!
# The plan of a subframe

A subframe has a plan for its calls: the antennas one after the other, the channel, the control
format, the soft bits of the control region, the candidates of the lookup. `Orderly` relates a plan
to the calls made and to the answer: calls are made as planned until one fails, and a failure to
decode is the failure of the last call.

What is planned depends on the answers before it. So each stage has a theorem of its own, which also
says what the next one starts from, and `received_receiveMessage` puts them together for the first
part of a subframe.
-/

namespace LteReceiver

variable {σ : Type} {cell : CellConfig} {antennas : Nat}

/-! ## What is seen of a call -/

namespace BlockCall

/-- The number of control symbols that a call answers. -/
def cfi? : BlockCall cell antennas → Option Nat
  | ⟨.controlFormat .., .ok cfi⟩ => some cfi
  | _ => none

/-- The message that a call finds for a terminal. -/
def found? (rnti : Rnti) : BlockCall cell antennas → Option DciMessage
  | ⟨.message location format, answer⟩ => DecoderCall.found? rnti ⟨location, format, answer⟩
  | _ => none

/-- A call fails when it answers an error, and when it answers a number of control symbols that
there cannot be. -/
def Fails (call : BlockCall cell antennas) : Prop :=
  (∃ e, call.answer = .error e) ∨ ∃ cfi, call.cfi? = some cfi ∧ (cfi < 1 ∨ maxCfi < cfi)

/-- The fault that a failed call is reported as. -/
def fault? : BlockCall cell antennas → Option DecodeFault
  | ⟨.demodulate .., .error e⟩ => some (.stage e)
  | ⟨.estimate .., .error e⟩ => some (.stage e)
  | ⟨.controlFormat .., .error e⟩ => some (.controlFormat e)
  | ⟨.controlFormat .., .ok cfi⟩ => if cfi < 1 ∨ maxCfi < cfi then some (.cfi cfi) else none
  | ⟨.softBits .., .error e⟩ => some (.softBits e)
  | ⟨.message location _, .error e⟩ => some (.candidate location.firstCce e)
  | ⟨.sharedData .., .error e⟩ => some (.sharedChannel e)
  | ⟨.acknowledgement .., .error e⟩ => some (.acknowledgement e)
  | _ => none

theorem fails_iff {call : BlockCall cell antennas} :
    call.Fails ↔ ∃ fault, call.fault? = some fault := by
  obtain ⟨request, answer⟩ := call
  cases request with
  | controlFormat =>
    cases answer with
    | error e => simp [Fails, fault?]
    | ok cfi => simp [Fails, fault?, cfi?]
  | demodulate | estimate | softBits | message | sharedData | acknowledgement =>
    cases answer <;> simp [Fails, fault?, cfi?]

theorem not_fails_iff {call : BlockCall cell antennas} :
    ¬ call.Fails ↔ call.fault? = none := by
  rw [fails_iff, not_exists, Option.eq_none_iff_forall_ne_some]

theorem cfi?_eq_none {call : BlockCall cell antennas}
    (h : ∀ grids estimate subframe, call.request ≠ .controlFormat grids estimate subframe) :
    call.cfi? = none := by
  obtain ⟨request, answer⟩ := call
  cases request with
  | controlFormat grids estimate subframe => exact absurd rfl (h grids estimate subframe)
  | demodulate | estimate | softBits | message | sharedData | acknowledgement => rfl

theorem found?_eq_none {rnti : Rnti} {call : BlockCall cell antennas}
    (h : ∀ location format, call.request ≠ .message location format) :
    call.found? rnti = none := by
  obtain ⟨request, answer⟩ := call
  cases request with
  | message location format => exact absurd rfl (h location format)
  | demodulate | estimate | controlFormat | softBits | sharedData | acknowledgement => rfl

end BlockCall

/-! ## Calls made as planned -/

/-- Calls that are made by a plan, and the answer after them. The plan can be given up without a
failed call too, with an error among `stops`. -/
inductive Orderly (stops : ReceiveError → Prop) {α : Type} : List (BlockRequest cell antennas) →
    Except ReceiveError α → List (BlockCall cell antennas) → Prop where
  /-- All calls are made. -/
  | done (answer : α) : Orderly stops [] (.ok answer) []
  | stopped (plan : List (BlockRequest cell antennas)) {e : ReceiveError} (h : stops e) :
      Orderly stops plan (.error e) []
  | failed {call : BlockCall cell antennas} (rest : List (BlockRequest cell antennas))
      {fault : DecodeFault} (h : call.fault? = some fault) :
      Orderly stops (call.request :: rest) (.error (.decode fault)) [call]
  | passed {call : BlockCall cell antennas} {rest : List (BlockRequest cell antennas)}
      {answer : Except ReceiveError α} {calls : List (BlockCall cell antennas)}
      (h : call.fault? = none) (hrest : Orderly stops rest answer calls) :
      Orderly stops (call.request :: rest) answer (call :: calls)

namespace Orderly

variable {α β : Type} {stops : ReceiveError → Prop} {plan more : List (BlockRequest cell antennas)}
  {calls moreCalls : List (BlockCall cell antennas)} {answer : Except ReceiveError α}

/-- A plan that is carried out is followed by another one. -/
theorem append {value : β} (h : Orderly stops plan (.ok value) calls)
    (hmore : Orderly stops more answer moreCalls) :
    Orderly stops (plan ++ more) answer (calls ++ moreCalls) := by
  generalize hok : Except.ok value = first at h
  induction h with
  | done => exact hmore
  | stopped => cases hok
  | failed => cases hok
  | passed hpassed _ ih => exact .passed hpassed (ih hok)

/-- What is planned after an error does not matter. -/
theorem append_of_error {e : ReceiveError}
    (h : Orderly stops plan (.error e : Except ReceiveError α) calls)
    (more : List (BlockRequest cell antennas)) :
    Orderly stops (plan ++ more) (.error e : Except ReceiveError β) calls := by
  generalize herror : Except.error e = first at h
  induction h with
  | done => cases herror
  | stopped plan hstops =>
    cases herror
    exact .stopped (plan ++ more) hstops
  | failed rest hfailed =>
    cases herror
    exact .failed (rest ++ more) hfailed
  | passed hpassed _ ih => exact .passed hpassed (ih herror)

/-- It does not matter what is answered. -/
theorem map (h : Orderly stops plan answer calls) (f : α → β) :
    Orderly stops plan (answer.map f) calls := by
  induction h with
  | done answer => exact .done (f answer)
  | stopped plan hstopped => exact .stopped plan hstopped
  | failed rest hfailed => exact .failed rest hfailed
  | passed hpassed _ ih => exact .passed hpassed ih

theorem mono {other : ReceiveError → Prop} (h : Orderly stops plan answer calls)
    (himp : ∀ e, stops e → other e) : Orderly other plan answer calls := by
  induction h with
  | done answer => exact .done answer
  | stopped plan hstopped => exact .stopped plan (himp _ hstopped)
  | failed rest hfailed => exact .failed rest hfailed
  | passed hpassed _ ih => exact .passed hpassed ih

/-- The calls are a first part of the plan. -/
theorem isPrefix (h : Orderly stops plan answer calls) : calls.map (·.request) <+: plan := by
  induction h with
  | done => exact List.nil_prefix
  | stopped => exact List.nil_prefix
  | failed rest _ => exact ⟨rest, rfl⟩
  | passed _ _ ih => exact (List.prefix_cons_inj _).mpr ih

/-- A plan that is carried out is all there is. -/
theorem requests_eq {value : α} (h : Orderly stops plan (.ok value) calls) :
    calls.map (·.request) = plan := by
  generalize hok : Except.ok value = first at h
  induction h with
  | done => rfl
  | stopped => cases hok
  | failed => cases hok
  | passed _ _ ih => exact congrArg (List.cons _) (ih hok)

/-- A plan that is not given up without a failed call is begun. -/
theorem first_request {request : BlockRequest cell antennas}
    (h : Orderly (fun _ => False) (request :: plan) answer calls) :
    [request] <+: calls.map (·.request) := by
  cases h with
  | stopped _ hstopped => exact hstopped.elim
  | failed => exact List.prefix_rfl
  | passed => exact (List.prefix_cons_inj _).mpr List.nil_prefix

theorem request_mem (h : Orderly stops plan answer calls) {call : BlockCall cell antennas}
    (hmem : call ∈ calls) : call.request ∈ plan :=
  h.isPrefix.subset (List.mem_map_of_mem hmem)

/-- Numbers of control symbols are answered where they are planned for only. -/
theorem filterMap_cfi?_eq_nil (h : Orderly stops plan answer calls)
    (hplan : ∀ grids estimate subframe, .controlFormat grids estimate subframe ∉ plan) :
    calls.filterMap (·.cfi?) = [] := by
  refine List.filterMap_eq_nil_iff.mpr fun call hmem => BlockCall.cfi?_eq_none ?_
  intro grids estimate subframe hrequest
  exact hplan grids estimate subframe (hrequest ▸ h.request_mem hmem)

/-- Messages are found where they are planned for only. -/
theorem filterMap_found?_eq_nil (h : Orderly stops plan answer calls)
    (hplan : ∀ location format, .message location format ∉ plan) (rnti : Rnti) :
    calls.filterMap (·.found? rnti) = [] := by
  refine List.filterMap_eq_nil_iff.mpr fun call hmem => BlockCall.found?_eq_none ?_
  intro location format hrequest
  exact hplan location format (hrequest ▸ h.request_mem hmem)

/-- No call follows one that fails. -/
theorem not_fails_of_dropLast (h : Orderly stops plan answer calls) :
    ∀ call ∈ calls.dropLast, ¬ call.Fails := by
  induction h with
  | done => exact fun _ hmem => nomatch hmem
  | stopped => exact fun _ hmem => nomatch hmem
  | failed => exact fun _ hmem => nomatch hmem
  | @passed call rest answer calls hpassed _ ih =>
    cases calls with
    | nil => exact fun _ hmem => nomatch hmem
    | cons next calls =>
      rw [List.dropLast_cons_of_ne_nil (List.cons_ne_nil next calls)]
      exact List.forall_mem_cons.mpr ⟨BlockCall.not_fails_iff.mpr hpassed, ih⟩

/-- What fails to decode is what a call is reported for. -/
theorem fault_iff (hstops : ∀ fault, ¬ stops (.decode fault))
    (h : Orderly stops plan answer calls) (fault : DecodeFault) :
    answer = .error (.decode fault) ↔ ∃ call ∈ calls, call.fault? = some fault := by
  induction h with
  | done => exact ⟨fun hdone => (nomatch hdone), fun ⟨_, hmem, _⟩ => (nomatch hmem)⟩
  | stopped plan hstopped =>
    refine ⟨fun herror => ?_, fun ⟨_, hmem, _⟩ => (nomatch hmem)⟩
    exact absurd (Except.error.inj herror ▸ hstopped) (hstops fault)
  | @failed call rest found hfailed =>
    simp [hfailed]
  | passed hpassed _ ih =>
    simp [ih, hpassed]

/-- Decoding fails exactly if a call does. -/
theorem decode_iff (hstops : ∀ fault, ¬ stops (.decode fault))
    (h : Orderly stops plan answer calls) :
    (∃ fault, answer = .error (.decode fault)) ↔ ∃ call ∈ calls, call.Fails := by
  simp only [h.fault_iff hstops, BlockCall.fails_iff]
  exact ⟨fun ⟨fault, call, hmem, hfault⟩ => ⟨call, hmem, fault, hfault⟩,
    fun ⟨call, hmem, fault, hfault⟩ => ⟨fault, call, hmem, hfault⟩⟩

/-- Other errors are those that the plan is given up with. -/
theorem decode_or_stops {e : ReceiveError}
    (h : Orderly stops plan (.error e : Except ReceiveError α) calls) :
    (∃ fault, e = .decode fault) ∨ stops e := by
  generalize herror : Except.error e = answer at h
  induction h with
  | done => cases herror
  | stopped plan hstopped =>
    cases herror
    exact .inr hstopped
  | failed =>
    cases herror
    exact .inl ⟨_, rfl⟩
  | passed _ _ ih => exact ih herror

/-- Without other reasons to give up, it is a call that fails. -/
theorem exists_decode {e : ReceiveError}
    (h : Orderly (fun _ => False) plan (.error e : Except ReceiveError α) calls) :
    ∃ fault, e = .decode fault :=
  h.decode_or_stops.resolve_right id

/-- A single call whose answer is handed on. -/
theorem of_call (request : BlockRequest cell antennas)
    (answer : Except ExternalError request.Answer) {fault : ExternalError → DecodeFault}
    (herror : ∀ e, BlockCall.fault? ⟨request, .error e⟩ = some (fault e))
    (hok : ∀ value, BlockCall.fault? ⟨request, .ok value⟩ = none) :
    Orderly stops [request] (answer.mapError (.decode ∘ fault)) [⟨request, answer⟩] := by
  cases answer with
  | error e => exact .failed [] (herror e)
  | ok value => exact .passed (hok value) (.done value)

end Orderly

theorem DecoderCall.fault?_toBlockCall (call : DecoderCall) :
    (call.toBlockCall : BlockCall cell antennas).fault? =
      match call.answer with
      | .error e => some (.candidate call.location.firstCce e)
      | .ok _ => none := by
  obtain ⟨location, format, answer⟩ := call
  cases answer <;> rfl

/-- The calls of a search are made as its candidates are tried. -/
theorem CandidateSearch.orderly {rnti : Rnti} {before after : DciLocation}
    {candidates : List Candidate} {calls : List DecoderCall}
    {answer : Except ReceiveError (Option DciMessage)}
    (stops : ReceiveError → Prop) (h : CandidateSearch rnti before candidates calls answer after) :
    Orderly stops
      (calls.map fun call => (.message call.location call.format : BlockRequest cell antennas))
      answer (calls.map (·.toBlockCall)) := by
  induction h with
  | exhausted => exact .done none
  | @found call message rest hfound =>
    have hpassed : (call.toBlockCall : BlockCall cell antennas).fault? = none := by
      obtain ⟨decoded, hdecoded⟩ : ∃ decoded, call.answer = .ok decoded := by
        cases hanswer : call.answer with
        | error e =>
          rw [DecoderCall.found?, hanswer] at hfound
          cases hfound
        | ok decoded => exact ⟨decoded, rfl⟩
      rw [DecoderCall.fault?_toBlockCall, hdecoded]
    exact .passed hpassed (.done (some message))
  | @failed call cause rest hfailed =>
    have hfault : (call.toBlockCall : BlockCall cell antennas).fault? =
        some (.candidate call.location.firstCce cause) := by
      rw [DecoderCall.fault?_toBlockCall, hfailed]
    exact .failed [] hfault
  | @missed call rest calls answer after hmiss _ ih =>
    have hpassed : (call.toBlockCall : BlockCall cell antennas).fault? = none := by
      obtain ⟨⟨decoded, hdecoded⟩, -⟩ := hmiss
      rw [DecoderCall.fault?_toBlockCall, hdecoded]
    exact .passed hpassed ih

/-- A search answers the message that its calls find. -/
theorem CandidateSearch.filterMap_found? {rnti : Rnti} {before after : DciLocation}
    {candidates : List Candidate} {calls : List DecoderCall}
    {answer : Except ReceiveError (Option DciMessage)}
    (h : CandidateSearch rnti before candidates calls answer after) :
    calls.filterMap (·.found? rnti) = (answer.toOption.join).toList := by
  induction h with
  | exhausted => rfl
  | @found call message rest hfound => rw [List.filterMap_cons_some hfound]; rfl
  | @failed call cause rest hfailed =>
    have hnone : call.found? rnti = none := by
      unfold DecoderCall.found?
      rw [hfailed]
    rw [List.filterMap_cons_none hnone]
    rfl
  | missed hmiss _ ih => rw [List.filterMap_cons_none hmiss.2, ih]

/-! ## Demodulation and estimation -/

namespace Downlink

variable {blocks : Blocks σ cell antennas} {downlink : Downlink σ cell antennas}
  (stops : ReceiveError → Prop)

theorem answerOf_on {τ ε α : Type} {part : Downlink σ cell antennas → τ}
    {update : Downlink σ cell antennas → τ → Downlink σ cell antennas} {fault : ε → ReceiveError}
    {action : EStateM ε τ α} :
    answerOf (on part update fault action downlink) =
      (answerOf (action (part downlink))).mapError fault := by
  unfold on
  cases action (part downlink) <;> rfl

/-- The demodulation of an antenna. -/
def demodulation (inputs : List (Array Sample)) (grids : Grids cell antennas)
    (antenna : Fin antennas) : BlockRequest cell antennas :=
  .demodulate (inputs.getD antenna.val #[]) (grids.get antenna)

theorem meets_demodulate (antenna : Fin antennas) (samples : Array Sample) :
    Meets (demodulate blocks.recorded antenna samples) (demodulate blocks antenna samples) downlink
      fun answer after calls =>
        Orderly stops [.demodulate samples (downlink.grids.get antenna)] answer calls ∧
        ∀ other ≠ antenna, after.grids.get other = downlink.grids.get other := by
  let request : BlockRequest cell antennas := .demodulate samples (downlink.grids.get antenna)
  let given := answerOf
    (blocks.demodulate samples (downlink.grids.get antenna, downlink.blockState))
  have hmakes : Makes (demodulate blocks.recorded antenna samples)
      (demodulate blocks antenna samples) downlink [⟨request, given⟩] := by
    unfold demodulate
    dsimp only [Blocks.recorded]
    exact makes_on (fun _ => rfl) (fun _ _ _ _ => rfl)
  refine ⟨_, hmakes, ?_, fun other hother => ?_⟩
  · rw [demodulate, answerOf_on]
    exact .of_call request given (fun _ => rfl) fun _ => rfl
  · have hset (grid : Grid cell) :
        (downlink.grids.set antenna grid antenna.isLt).get other = downlink.grids.get other :=
      Vector.getElem_set_ne antenna.isLt other.isLt (Fin.val_ne_of_ne hother.symm)
    unfold demodulate on
    split
    · exact hset _
    · exact hset _

/-- With an input for each antenna, all antennas are demodulated. -/
theorem demodulateAll_eq {inputs : List (Array Sample)} (hinputs : antennas ≤ inputs.length) :
    demodulateAll blocks inputs =
      (List.finRange antennas).forM fun antenna =>
        demodulate blocks antenna (inputs.getD antenna.val #[]) := by
  have hinput (antenna : Fin antennas) :
      inputs[antenna.val]? = some (inputs.getD antenna.val #[]) := by
    have hlt : antenna.val < inputs.length := by omega
    simp [hlt]
  unfold demodulateAll
  simp only [hinput]

/-- Antennas are demodulated in their order, each into its own grid. -/
theorem meets_demodulateAll {inputs : List (Array Sample)} (hinputs : antennas ≤ inputs.length) :
    Meets (demodulateAll blocks.recorded inputs) (demodulateAll blocks inputs) downlink
      fun answer _ calls =>
        Orderly stops ((List.finRange antennas).map (demodulation inputs downlink.grids)) answer
          calls := by
  have hall : ∀ (is : List (Fin antennas)) (downlink : Downlink σ cell antennas), is.Nodup →
      Meets
        (is.forM fun antenna => demodulate blocks.recorded antenna (inputs.getD antenna.val #[]))
        (is.forM fun antenna => demodulate blocks antenna (inputs.getD antenna.val #[])) downlink
        fun answer _ calls =>
          Orderly stops (is.map (demodulation inputs downlink.grids)) answer calls := by
    intro is
    induction is with
    | nil => exact fun downlink _ => ⟨[], makes_pure _, .done _⟩
    | cons antenna rest ih =>
      intro downlink hnodup
      obtain ⟨hfirst, hrest⟩ := List.nodup_cons.mp hnodup
      refine (meets_demodulate stops antenna (inputs.getD antenna.val #[])).bind
        (fun answer after calls ⟨hcalls, hothers⟩ => ?_) (fun e after calls ⟨hcalls, _⟩ => ?_)
      · -- the grids of the antennas that are left are those from the start
        have hplan : rest.map (demodulation inputs after.grids) =
            rest.map (demodulation inputs downlink.grids) := by
          refine List.map_congr_left fun other hother => ?_
          rw [demodulation, hothers other (fun heq => hfirst (heq ▸ hother)), demodulation]
        refine (ih after hrest).mono fun last final more hmore => ?_
        rw [hplan] at hmore
        exact hcalls.append hmore
      · exact hcalls.append_of_error _
  rw [demodulateAll_eq hinputs, demodulateAll_eq hinputs]
  exact hall (List.finRange antennas) downlink (List.nodup_finRange antennas)

theorem meets_removeOffset :
    Meets (modify removeOffset) (modify removeOffset) downlink
      fun answer after calls =>
        answer = .ok () ∧ calls = [] ∧ after.estimate = downlink.estimate := by
  refine ⟨[], makes_modify fun notes => ?_, rfl, rfl, ?_⟩
  · unfold removeOffset
    by_cases h : (downlink.sampleOffset != 0) = true
    · rw [if_pos h]
      exact if_pos h
    · rw [if_neg h]
      exact if_neg h
  · show downlink.removeOffset.estimate = downlink.estimate
    unfold removeOffset
    split <;> rfl

theorem meets_estimateChannel (subframe : Nat) :
    Meets (estimateChannel blocks.recorded subframe) (estimateChannel blocks subframe) downlink
      fun answer after calls =>
        Orderly stops [.estimate downlink.grids downlink.estimate subframe] answer calls ∧
        after.grids = downlink.grids := by
  let request : BlockRequest cell antennas := .estimate downlink.grids downlink.estimate subframe
  let given := answerOf
    (blocks.estimate downlink.grids subframe (downlink.estimate, downlink.blockState))
  have hmakes : Makes (estimateChannel blocks.recorded subframe) (estimateChannel blocks subframe)
      downlink [⟨request, given⟩] := by
    refine makes_get (fun _ => rfl) ?_
    dsimp only [Blocks.recorded]
    exact makes_on (fun _ => rfl) (fun _ _ _ _ => rfl)
  refine ⟨_, hmakes, ?_, ?_⟩
  · rw [estimateChannel, get_bind, answerOf_on]
    exact .of_call request given (fun _ => rfl) fun _ => rfl
  · have hkeeps : Keeps (·.grids) (estimateChannel blocks subframe) :=
      keeps_get.bind fun _ => keeps_on fun _ _ => rfl
    exact hkeeps downlink

/-- Read the number of control symbols, from the grids and the estimate at hand. -/
def readFormat (blocks : Blocks σ cell antennas) (subframe : Nat) : Action σ cell antennas Nat := do
  let downlink ← get
  let cfi ← onBlocks .controlFormat
    (blocks.controlFormat downlink.grids downlink.estimate subframe)
  if cfi < 1 ∨ maxCfi < cfi then
    throw (.decode (.cfi cfi))
  return cfi

theorem decodeEstimate_eq {subframe : Nat} (hsubframe : subframe < subframesPerFrame) :
    decodeEstimate blocks subframe =
      estimateChannel blocks subframe >>= fun _ => readFormat blocks subframe := by
  unfold decodeEstimate
  rw [if_neg (Nat.not_le.mpr hsubframe)]
  rfl

/-- The grids and the estimate, from which a subframe is decoded. -/
def channel (downlink : Downlink σ cell antennas) :
    Grids cell antennas × CellEstimate cell antennas :=
  (downlink.grids, downlink.estimate)

theorem keeps_channel_readFormat (subframe : Nat) : Keeps channel (readFormat blocks subframe) := by
  refine keeps_get.bind fun _ => (keeps_onBlocks fun _ _ => rfl).bind fun cfi => ?_
  split
  · exact keeps_throw _
  · exact keeps_pure cfi

theorem meets_readFormat (subframe : Nat) :
    Meets (readFormat blocks.recorded subframe) (readFormat blocks subframe) downlink
      fun answer _ calls =>
        Orderly stops [.controlFormat downlink.grids downlink.estimate subframe] answer calls ∧
        ∀ cfi, answer = .ok cfi →
          (1 ≤ cfi ∧ cfi ≤ maxCfi) ∧ calls.filterMap (·.cfi?) = [cfi] := by
  let request : BlockRequest cell antennas :=
    .controlFormat downlink.grids downlink.estimate subframe
  let run := blocks.controlFormat downlink.grids downlink.estimate subframe downlink.blockState
  have hcall : Meets
      (onBlocks .controlFormat
        (blocks.recorded.controlFormat downlink.grids downlink.estimate subframe))
      (onBlocks .controlFormat (blocks.controlFormat downlink.grids downlink.estimate subframe))
      downlink fun answer _ calls =>
        ∃ given : Except ExternalError Nat,
          answer = given.mapError (.decode ∘ .controlFormat) ∧ calls = [⟨request, given⟩] :=
    ⟨[⟨request, answerOf run⟩], makes_onBlocks, answerOf run, answerOf_on, rfl⟩
  refine meets_get (fun _ => rfl) (hcall.bind ?_ ?_)
  · rintro cfi after _ ⟨_ | given, hanswer, rfl⟩
    · cases hanswer
    · cases hanswer
      dsimp only
      split
      next hbad =>
        have hfault : BlockCall.fault? ⟨request, .ok cfi⟩ = some (.cfi cfi) := if_pos hbad
        exact ⟨[], makes_throw _, .failed [] hfault, fun _ h => nomatch h⟩
      next hgood =>
        have hpassed : BlockCall.fault? ⟨request, .ok cfi⟩ = none := if_neg hgood
        refine ⟨[], makes_pure cfi, .passed hpassed (.done cfi), fun _ h => ?_⟩
        cases h
        exact ⟨by omega, rfl⟩
  · rintro e after _ ⟨given | _, hanswer, rfl⟩
    · cases hanswer
      have hfault : BlockCall.fault? ⟨request, .error given⟩ = some (.controlFormat given) := rfl
      exact ⟨.failed [] hfault, fun _ h => nomatch h⟩
    · cases hanswer

theorem meets_decodeEstimate {subframe : Nat} (hsubframe : subframe < subframesPerFrame) :
    Meets (decodeEstimate blocks.recorded subframe) (decodeEstimate blocks subframe) downlink
      fun answer after calls => ∃ estimate,
        Orderly stops [.estimate downlink.grids downlink.estimate subframe,
          .controlFormat downlink.grids estimate subframe] answer calls ∧
        ∀ cfi, answer = .ok cfi → (1 ≤ cfi ∧ cfi ≤ maxCfi) ∧ calls.filterMap (·.cfi?) = [cfi] ∧
          channel after = (downlink.grids, estimate) := by
  rw [decodeEstimate_eq hsubframe, decodeEstimate_eq hsubframe]
  refine (meets_estimateChannel stops subframe).bind (fun _ after calls ⟨hcalls, hgrids⟩ => ?_)
    (fun e after calls ⟨hcalls, _⟩ => ?_)
  · refine ((meets_readFormat stops subframe).keeping (keeps_channel_readFormat subframe)).mono ?_
    rintro answer final more ⟨⟨hmore, hcfi⟩, hchannel⟩
    rw [hgrids] at hmore
    refine ⟨after.estimate, hcalls.append hmore, fun cfi hok => ?_⟩
    obtain ⟨hrange, hcfis⟩ := hcfi cfi hok
    refine ⟨hrange, ?_, ?_⟩
    · have hnone : calls.filterMap (·.cfi?) = [] := hcalls.filterMap_cfi?_eq_nil (by simp)
      rw [List.filterMap_append, hnone, hcfis, List.nil_append]
    · rw [hchannel, channel, hgrids]
  · exact ⟨downlink.estimate, hcalls.append_of_error _, fun _ h => nomatch h⟩

/-- From samples to the number of control symbols. -/
theorem meets_decodeSamples {inputs : List (Array Sample)} {subframe : Nat}
    (hinputs : antennas ≤ inputs.length) (hsubframe : subframe < subframesPerFrame) :
    Meets (decodeSamples blocks.recorded inputs subframe) (decodeSamples blocks inputs subframe)
      downlink fun answer after calls => ∃ grids estimate,
        Orderly stops ((List.finRange antennas).map (demodulation inputs downlink.grids) ++
          [.estimate grids downlink.estimate subframe, .controlFormat grids estimate subframe])
          answer calls ∧
        ∀ cfi, answer = .ok cfi → (1 ≤ cfi ∧ cfi ≤ maxCfi) ∧ calls.filterMap (·.cfi?) = [cfi] ∧
          channel after = (grids, estimate) := by
  have hkeeps : Keeps (·.estimate) (demodulateAll blocks inputs) :=
    keeps_demodulateAll inputs fun _ _ _ => rfl
  unfold decodeSamples
  rw [if_neg (Nat.not_lt.mpr hinputs), if_neg (Nat.not_lt.mpr hinputs)]
  refine ((meets_demodulateAll stops hinputs).keeping hkeeps).bind
    (fun _ demodulated calls ⟨hcalls, hestimate⟩ => ?_) (fun e after calls ⟨hcalls, _⟩ => ?_)
  · refine meets_removeOffset.bind ?_ (fun _ _ _ ⟨herror, _⟩ => nomatch herror)
    rintro _ turned _ ⟨-, rfl, hkept⟩
    refine (meets_decodeEstimate stops hsubframe).mono ?_
    rintro answer final more ⟨estimate, hmore, hready⟩
    rw [hkept, hestimate] at hmore
    refine ⟨turned.grids, estimate, hcalls.append hmore, fun cfi hok => ?_⟩
    obtain ⟨hrange, hcfis, hchannel⟩ := hready cfi hok
    have hnone : calls.filterMap (·.cfi?) = [] :=
      hcalls.filterMap_cfi?_eq_nil (by simp [demodulation])
    refine ⟨hrange, ?_, hchannel⟩
    rw [List.nil_append, List.filterMap_append, hnone, hcfis, List.nil_append]
  · exact ⟨downlink.grids, downlink.estimate, hcalls.append_of_error _, fun _ h => nomatch h⟩

/-! ## The control region -/

theorem meets_takeSoftBits (subframe cfi : Nat) :
    Meets (takeSoftBits blocks.recorded subframe cfi) (takeSoftBits blocks subframe cfi) downlink
      fun answer after calls =>
        Orderly stops [.softBits downlink.grids downlink.estimate subframe cfi] answer calls ∧
        channel after = channel downlink := by
  let request : BlockRequest cell antennas :=
    .softBits downlink.grids downlink.estimate subframe cfi
  let given := answerOf
    (blocks.softBits downlink.grids downlink.estimate subframe cfi downlink.blockState)
  have hmakes : Makes (takeSoftBits blocks.recorded subframe cfi) (takeSoftBits blocks subframe cfi)
      downlink [⟨request, given⟩] := makes_get (fun _ => rfl) makes_onBlocks
  have hkeeps : Keeps channel (takeSoftBits blocks subframe cfi) :=
    keeps_takeSoftBits subframe cfi fun _ _ => rfl
  refine ⟨_, hmakes, ?_, hkeeps downlink⟩
  rw [takeSoftBits, get_bind, onBlocks, answerOf_on]
  exact .of_call request given (fun _ => rfl) fun _ => rfl

/-- The requests of a lookup from a state of the blocks. -/
def lookupPlan (blocks : Blocks σ cell antennas) (downlink : Downlink σ cell antennas) (state : σ)
    (cfi subframe : Nat) (rnti : Rnti) : List (BlockRequest cell antennas) :=
  (lookupCalls blocks { downlink with blockState := state } cfi subframe rnti).map
    fun call => .message call.location call.format

theorem answerOf_findDownlink (cfi subframe : Nat) (rnti : Rnti) :
    answerOf (findDownlink blocks cfi subframe rnti downlink) =
      answerOf (DciSearch.findDownlink blocks.messages downlink.mode cfi subframe rnti
        (downlink.search, downlink.blockState)) := by
  rw [findDownlink, get_bind, onSearch, answerOf_on]
  cases DciSearch.findDownlink blocks.messages downlink.mode cfi subframe rnti
    (downlink.search, downlink.blockState) <;> rfl

/-- A lookup is made for an assigned identity only. With that it fails when a call does. -/
theorem meets_findDownlink {cfi subframe : Nat} {rnti : Rnti} (htables : InTables cfi subframe)
    (hstops : rnti.isAssigned = false → stops (.configuration .rntiUnset)) :
    Meets (findDownlink blocks.recorded cfi subframe rnti) (findDownlink blocks cfi subframe rnti)
      downlink fun answer after calls =>
        Orderly stops (lookupPlan blocks downlink downlink.blockState cfi subframe rnti) answer
          calls ∧
        calls.filterMap (·.found? rnti) = answer.toOption.join.toList ∧
        channel after = channel downlink := by
  have hkeeps : Keeps channel (findDownlink blocks cfi subframe rnti) :=
    keeps_get.bind fun _ => keeps_on fun _ _ => rfl
  refine ⟨_, makes_findDownlink blocks cfi subframe rnti, ?_⟩
  rw [answerOf_findDownlink, lookupPlan]
  cases hrnti : rnti.isAssigned with
  | false =>
    have hcalls : lookupCalls blocks downlink cfi subframe rnti = [] := by
      simp only [lookupCalls, DciSearch.perform, findDownlink_of_unassigned htables hrnti]
      rfl
    rw [hcalls, findDownlink_of_unassigned htables hrnti]
    exact ⟨.stopped [] (hstops hrnti), rfl, hkeeps downlink⟩
  | true =>
    obtain ⟨_, hsearch, -⟩ := search_findDownlink blocks.messages downlink.blockState
      downlink.search downlink.mode htables hrnti
    refine ⟨hsearch.orderly stops, ?_, hkeeps downlink⟩
    rw [List.filterMap_map]
    exact hsearch.filterMap_found?

/-- A lookup depends on nothing that is changed before it, except the state of the blocks. -/
theorem lookupPlan_congr {opened : Downlink σ cell antennas}
    (h : beforeLookup opened = beforeLookup downlink) (state : σ) (cfi subframe : Nat)
    (rnti : Rnti) :
    lookupPlan blocks opened state cfi subframe rnti =
      lookupPlan blocks downlink state cfi subframe rnti := by
  have hsearch : opened.search = downlink.search := congrArg Prod.fst h
  have hmode : opened.mode = downlink.mode := congrArg (·.2.2.2.2.1) h
  simp only [lookupPlan, lookupCalls, hsearch, hmode]

/-- Take the soft bits of the control region, and look for a message in them. -/
def searchControl (blocks : Blocks σ cell antennas) (cfi subframe : Nat) (rnti : Rnti) :
    Action σ cell antennas (Option (DciMessage × Nat)) := do
  takeSoftBits blocks subframe cfi
  let found ← findDownlink blocks cfi subframe rnti
  return found.map (·, cfi)

theorem meets_searchControl {cfi subframe : Nat} {rnti : Rnti} (htables : InTables cfi subframe)
    (hstops : rnti.isAssigned = false → stops (.configuration .rntiUnset)) :
    Meets (searchControl blocks.recorded cfi subframe rnti)
      (searchControl blocks cfi subframe rnti) downlink fun answer after calls =>
        (∃ state, Orderly stops
          ([.softBits downlink.grids downlink.estimate subframe cfi] ++
            lookupPlan blocks downlink state cfi subframe rnti) answer calls) ∧
        calls.filterMap (·.found? rnti) = (answer.toOption.join.map (·.1)).toList ∧
        (∀ message n, answer = .ok (some (message, n)) → n = cfi) ∧
        channel after = channel downlink := by
  have hkeeps : Keeps beforeLookup (takeSoftBits blocks subframe cfi) :=
    keeps_takeSoftBits subframe cfi fun _ _ => rfl
  refine ((meets_takeSoftBits stops subframe cfi).keeping hkeeps).bind ?_ ?_
  · rintro _ taken bits ⟨⟨hbits, hchannel⟩, htaken⟩
    refine ((meets_findDownlink stops htables hstops).mono ?_).map
    rintro found final more ⟨hmore, hmessages, hfinal⟩
    rw [lookupPlan_congr htaken] at hmore
    have hbitsNone : bits.filterMap (·.found? rnti) = [] :=
      hbits.filterMap_found?_eq_nil (by simp) rnti
    refine ⟨⟨taken.blockState, hbits.append (hmore.map _)⟩, ?_, ?_, hfinal.trans hchannel⟩
    · rw [List.filterMap_append, hbitsNone, hmessages]
      rcases found with e | (_ | message) <;> rfl
    · intro message n hok
      rcases found with e | (_ | message) <;> cases hok
      rfl
  · rintro e taken bits ⟨⟨hbits, hchannel⟩, -⟩
    exact ⟨⟨downlink.blockState, hbits.append_of_error _⟩,
      hbits.filterMap_found?_eq_nil (by simp) rnti, fun _ _ h => (nomatch h), hchannel⟩

end Downlink

end LteReceiver
