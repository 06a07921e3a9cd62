import LteReceiver.Proofs.Downlink.Course
import LteReceiver.Proofs.Downlink.SampleOffset

/-!
# What a refused call leaves behind

A call is refused for too few inputs, for a subframe that is not in the frame, or for an identity
that is not assigned. Each of these is noticed by the stage that needs it. The number of the inputs
is the first thing that is looked at when samples are decoded, and so is the number of the subframe
when a whole subframe is processed: then no block is called, and the downlink stays as it is.

The other checks come late. When samples are decoded, the number of the subframe is looked at after
all antennas were demodulated (`meets_decodeSamples_outside`), and an identity is looked at when a
message is to be found, after the soft bits were taken (`meets_receiveMessage_unassigned`). So these
calls are refused with traces, and `left_of_refused` says which.
-/

namespace LteReceiver

namespace Downlink

variable {σ : Type} {cell : CellConfig} {antennas : Nat} {blocks : Blocks σ cell antennas}
  {downlink : Downlink σ cell antennas} {frame : UInt32} {subframe : Nat}
  {inputs : List (Array Sample)} {rnti : Rnti}

/-! ## Refused at once -/

theorem decodeSamples_of_few (h : inputs.length < antennas) :
    decodeSamples blocks inputs subframe =
      throw (.configuration (.inputCount antennas inputs.length)) :=
  if_pos h

theorem processSubframe_of_outside (h : subframesPerFrame ≤ subframe) :
    processSubframe blocks frame subframe inputs rnti =
      throw (.configuration (.subframeIndex subframe)) :=
  if_pos h

theorem processSubframe_of_few (hframe : subframe < subframesPerFrame)
    (h : inputs.length < antennas) :
    processSubframe blocks frame subframe inputs rnti =
      throw (.configuration (.inputCount antennas inputs.length)) := by
  unfold processSubframe
  simp only [if_neg (Nat.not_le.mpr hframe), decodeSamples_of_few h]
  rfl

/-! ## Refused late -/

theorem decodeEstimate_of_outside (h : subframesPerFrame ≤ subframe) :
    decodeEstimate blocks subframe = throw (.configuration (.subframeIndex subframe)) :=
  if_pos h

/-- With a subframe that is not in the frame all antennas are demodulated, unless that fails, and
the offset is taken out before the call is refused. -/
theorem meets_decodeSamples_outside (hinputs : antennas ≤ inputs.length)
    (hsubframe : subframesPerFrame ≤ subframe) :
    Meets (decodeSamples blocks.recorded inputs subframe) (decodeSamples blocks inputs subframe)
      downlink fun answer after calls =>
        (∃ fault, answer = .error (.decode fault)) ∨
        answer = .error (.configuration (.subframeIndex subframe)) ∧
          calls.map (·.request) =
            (List.finRange antennas).map (demodulation inputs downlink.grids) ∧
          ∃ demodulated, demodulateAll blocks inputs downlink = .ok () demodulated ∧
            after = demodulated.removeOffset := by
  rw [decodeSamples_eq hinputs, decodeSamples_eq hinputs]
  refine (meets_demodulateAll (fun _ => False) hinputs).run.bind ?_ ?_
  · rintro _ demodulated calls ⟨hcalls, hanswer, rfl⟩
    refine meets_removeOffset.run.bind ?_ fun _ _ _ ⟨⟨herror, _⟩, _⟩ => nomatch herror
    rintro _ _ _ ⟨⟨-, rfl, -⟩, -, rfl⟩
    rw [decodeEstimate_of_outside hsubframe, decodeEstimate_of_outside hsubframe]
    refine ⟨[], makes_throw _, .inr ⟨rfl, ?_, _, eq_ok_of_answerOf hanswer, rfl⟩⟩
    rw [List.append_nil, List.append_nil, hcalls.requests_eq]
  · rintro e _ _ ⟨hcalls, -, -⟩
    obtain ⟨fault, rfl⟩ := hcalls.exists_decode
    exact .inl ⟨fault, rfl⟩

/-- A lookup for an identity that is not assigned is refused before a candidate is tried. -/
theorem findDownlink_eq_error {cfi : Nat} (htables : InTables cfi subframe)
    (hrnti : rnti.isAssigned = false) :
    findDownlink blocks cfi subframe rnti downlink =
      .error (.configuration .rntiUnset) downlink := by
  rw [findDownlink, get_bind, onSearch, on, findDownlink_of_unassigned htables hrnti]
  rfl

theorem makes_findDownlink_of_unassigned {cfi : Nat} (htables : InTables cfi subframe)
    (hrnti : rnti.isAssigned = false) :
    Makes (findDownlink blocks.recorded cfi subframe rnti) (findDownlink blocks cfi subframe rnti)
      downlink [] := by
  intro notes
  rw [findDownlink_eq_error htables hrnti, findDownlink_eq_error htables hrnti, List.append_nil]
  rfl

/-- A stage failed to decode, or all was done up to the soft bits, and then the identity was
refused. -/
def StopsForIdentity {α : Type} (downlink : Downlink σ cell antennas) (inputs : List (Array Sample))
    (subframe : Nat) (answer : Except ReceiveError α) (after : Downlink σ cell antennas)
    (calls : List (BlockCall cell antennas)) : Prop :=
  (∃ fault, answer = .error (.decode fault)) ∨
    answer = .error (.configuration .rntiUnset) ∧ beforeLookup after = beforeLookup downlink ∧
      ∃ cfi, calls.map (·.request) =
        downlink.formatPlan inputs subframe after.grids after.estimate ++
          [.softBits after.grids after.estimate subframe cfi]

/-- For an identity that is not assigned no message is looked for. -/
theorem meets_receiveMessage_unassigned (hframe : subframe < subframesPerFrame)
    (hinputs : antennas ≤ inputs.length) (hrnti : rnti.isAssigned = false) :
    Meets (receiveMessage blocks.recorded subframe inputs rnti)
      (receiveMessage blocks subframe inputs rnti) downlink
      (StopsForIdentity downlink inputs subframe) := by
  unfold receiveMessage
  rw [if_neg (Nat.not_le.mpr hframe), if_neg (Nat.not_le.mpr hframe)]
  refine ((meets_decodeSamples (fun _ => False) hinputs hframe).keeping
    (keeps_beforeLookup_decodeSamples inputs subframe)).bind ?_ ?_
  · rintro cfi opened calls ⟨⟨grids, estimate, hcalls, hready⟩, hopened⟩
    obtain ⟨⟨hlow, hhigh⟩, -, hchannel⟩ := hready cfi rfl
    obtain ⟨rfl, rfl⟩ := Prod.mk.inj hchannel
    have hkeeps : Keeps beforeLookup (takeSoftBits blocks subframe cfi) :=
      keeps_takeSoftBits subframe cfi fun _ _ => rfl
    refine ((meets_takeSoftBits (fun _ => False) subframe cfi).keeping hkeeps).bind ?_ ?_
    · rintro _ taken bits ⟨⟨hbits, hsame⟩, htaken⟩
      obtain ⟨hgrids, hestimate⟩ := Prod.mk.inj hsame
      have hrefused : findDownlink blocks cfi subframe rnti taken =
          .error (.configuration .rntiUnset) taken :=
        findDownlink_eq_error ⟨hlow, hhigh, hframe⟩ hrnti
      -- no candidate is tried any more, so all calls have been made by now
      refine ⟨[], (makes_findDownlink_of_unassigned ⟨hlow, hhigh, hframe⟩ hrnti).bind_error
        hrefused, ?_⟩
      rw [bind_of_error hrefused]
      refine .inr ⟨rfl, htaken.trans hopened, cfi, ?_⟩
      show _ = downlink.formatPlan inputs subframe taken.grids taken.estimate ++
        [.softBits taken.grids taken.estimate subframe cfi]
      rw [hgrids, hestimate, List.append_nil, List.map_append, hcalls.requests_eq,
        hbits.requests_eq]
      rfl
    · rintro e _ _ ⟨⟨hbits, -⟩, -⟩
      obtain ⟨fault, rfl⟩ := hbits.exists_decode
      exact .inl ⟨fault, rfl⟩
  · rintro e _ _ ⟨⟨_, _, hcalls, -⟩, -⟩
    obtain ⟨fault, rfl⟩ := hcalls.exists_decode
    exact .inl ⟨fault, rfl⟩

theorem meets_processSubframe_unassigned (frame : UInt32) (hframe : subframe < subframesPerFrame)
    (hinputs : antennas ≤ inputs.length) (hrnti : rnti.isAssigned = false) :
    Meets (processSubframe blocks.recorded frame subframe inputs rnti)
      (processSubframe blocks frame subframe inputs rnti) downlink
      (StopsForIdentity downlink inputs subframe) := by
  rw [processSubframe_eq, processSubframe_eq]
  refine (meets_receiveMessage_unassigned hframe hinputs hrnti).bind ?_ ?_
  · rintro _ _ _ (⟨_, hanswer⟩ | ⟨hanswer, -⟩) <;> cases hanswer
  · rintro e after calls (⟨fault, hanswer⟩ | ⟨hanswer, hleft⟩)
    · cases hanswer
      exact .inl ⟨fault, rfl⟩
    · cases hanswer
      exact .inr ⟨rfl, hleft⟩

/-! ## What is left -/

/-- A subframe is refused for one of the reasons, and for no other. -/
theorem Course.refusal {answer : Except ReceiveError SubframeResult}
    {after : Downlink σ cell antennas} {calls : List (BlockCall cell antennas)}
    (h : Course blocks downlink frame subframe inputs rnti answer after calls)
    {fault : ConfigurationFault} (hanswer : answer = .error (.configuration fault)) :
    Refusal antennas subframe inputs rnti (.configuration fault) := by
  obtain ⟨_, _, _, _, _, _, -, -, hcalls⟩ := h.orderly
  subst hanswer
  rcases hcalls.decode_or_stops with ⟨_, hdecode⟩ | hstops
  · cases hdecode
  · cases hstops with
    | refused hrefusal => exact hrefusal

section Left

variable {left : Downlink σ cell antennas} {fault : ConfigurationFault}

/-- With enough inputs, decoding of samples is refused for its subframe only, and that comes
late. -/
theorem left_of_decodeSamples (hinputs : antennas ≤ inputs.length)
    (h : decodeSamples blocks inputs subframe downlink = .error (.configuration fault) left) :
    subframesPerFrame ≤ subframe ∧ fault = .subframeIndex subframe ∧
      (callsOf (decodeSamples blocks.recorded inputs subframe (downlink.noting []))).map
        (·.request) = (List.finRange antennas).map (demodulation inputs downlink.grids) ∧
      ∃ demodulated, demodulateAll blocks inputs downlink = .ok () demodulated ∧
        left = demodulated.removeOffset := by
  by_cases hframe : subframe < subframesPerFrame
  · obtain ⟨_, -, _, _, hplan, -⟩ : Meets (decodeSamples blocks.recorded inputs subframe)
        (decodeSamples blocks inputs subframe) downlink _ :=
      meets_decodeSamples (fun _ => False) hinputs hframe
    rw [h] at hplan
    obtain ⟨_, hdecode⟩ := hplan.exists_decode
    cases hdecode
  · have houtside : subframesPerFrame ≤ subframe := Nat.not_lt.mp hframe
    obtain ⟨calls, hmakes, hpost⟩ : Meets (decodeSamples blocks.recorded inputs subframe)
        (decodeSamples blocks inputs subframe) downlink _ :=
      meets_decodeSamples_outside hinputs houtside
    rw [h] at hpost
    rcases hpost with ⟨_, hanswer⟩ | ⟨hanswer, hrequests, hleft⟩
    · cases hanswer
    · cases hanswer
      rw [hmakes.callsOf_eq]
      exact ⟨houtside, rfl, hrequests, hleft⟩

/-- With enough inputs, a subframe in the frame is refused for its identity only, and that comes
late. -/
theorem left_of_processSubframe (hframe : subframe < subframesPerFrame)
    (hinputs : antennas ≤ inputs.length)
    (h : processSubframe blocks frame subframe inputs rnti downlink =
      .error (.configuration fault) left) :
    rnti.isAssigned = false ∧ fault = .rntiUnset ∧ left.search = downlink.search ∧
      ∃ cfi, (subframeCalls blocks downlink frame subframe inputs rnti).map (·.request) =
        downlink.formatPlan inputs subframe left.grids left.estimate ++
          [.softBits left.grids left.estimate subframe cfi] := by
  have hcourse := course_subframeCalls blocks downlink frame subframe inputs rnti
  rw [h] at hcourse
  have hrnti : rnti.isAssigned = false := by
    cases hcourse.refusal rfl with
    | subframeIndex houtside => exact absurd hframe (Nat.not_lt.mpr houtside)
    | inputCount hfew => exact absurd hinputs (Nat.not_le.mpr hfew)
    | rntiUnset hrnti => exact hrnti
  obtain ⟨calls, hmakes, hpost⟩ :
      Meets (processSubframe blocks.recorded frame subframe inputs rnti)
        (processSubframe blocks frame subframe inputs rnti) downlink _ :=
    meets_processSubframe_unassigned frame hframe hinputs hrnti
  rw [h] at hpost
  rcases hpost with ⟨_, hanswer⟩ | ⟨hanswer, hbefore, hrequests⟩
  · cases hanswer
  · cases hanswer
    rw [subframeCalls, hmakes.callsOf_eq]
    exact ⟨hrnti, rfl, congrArg Prod.fst hbefore, hrequests⟩

end Left

/--
**What a refused call leaves behind.**

Too few inputs are refused at once: no block is called, and nothing of the downlink changes. When a
whole subframe is processed that goes for a subframe outside of the frame too.

When samples are decoded for a subframe outside of the frame, all antennas are demodulated before
the call is refused. It leaves the new grids, with the sampling offset taken out, next to the
estimate from before. When a subframe is processed for an identity that is not assigned, the call is
refused after the samples were demodulated, the channel estimated, the number of control symbols
decoded and the soft bits taken. It leaves the new grids and the estimate that belongs to them. In
both cases the search is as it was.

There are no other ways to be refused.
-/
theorem left_of_refused (blocks : Blocks σ cell antennas) (downlink : Downlink σ cell antennas)
    (frame : UInt32) (subframe : Nat) (inputs : List (Array Sample)) (rnti : Rnti) :
    let demodulations := (List.finRange antennas).map fun antenna =>
      .demodulate (inputs.getD antenna.val #[]) (downlink.grids.get antenna)
    let decoded := decodeSamples blocks inputs subframe downlink
    let decodeCalls := callsOf (decodeSamples blocks.recorded inputs subframe (downlink.noting []))
    let processed := processSubframe blocks frame subframe inputs rnti downlink
    let calls := subframeCalls blocks downlink frame subframe inputs rnti
    (inputs.length < antennas →
      decoded = .error (.configuration (.inputCount antennas inputs.length)) downlink ∧
        decodeCalls = []) ∧
    (antennas ≤ inputs.length → ∀ fault left, decoded = .error (.configuration fault) left →
      10 ≤ subframe ∧ fault = .subframeIndex subframe ∧
        decodeCalls.map (·.request) = demodulations ∧
        left.estimate = downlink.estimate ∧ left.search = downlink.search ∧
        ∃ demodulated, demodulateAll blocks inputs downlink = .ok () demodulated ∧
          left = demodulated.removeOffset) ∧
    (10 ≤ subframe →
      processed = .error (.configuration (.subframeIndex subframe)) downlink ∧ calls = []) ∧
    (subframe < 10 → inputs.length < antennas →
      processed = .error (.configuration (.inputCount antennas inputs.length)) downlink ∧
        calls = []) ∧
    (subframe < 10 → antennas ≤ inputs.length → ∀ fault left,
      processed = .error (.configuration fault) left →
        rnti.isAssigned = false ∧ fault = .rntiUnset ∧ left.search = downlink.search ∧
          ∃ cfi, calls.map (·.request) = demodulations ++
            [.estimate left.grids downlink.estimate subframe,
              .controlFormat left.grids left.estimate subframe,
              .softBits left.grids left.estimate subframe cfi]) := by
  intro demodulations decoded decodeCalls processed calls
  refine ⟨fun hfew => ?_, fun hinputs fault left hleft => ?_, fun houtside => ?_,
    fun hframe hfew => ?_, fun hframe hinputs fault left hleft => ?_⟩
  · simp only [decoded, decodeCalls, decodeSamples_of_few hfew]
    exact ⟨rfl, rfl⟩
  · obtain ⟨houtside, hfault, hrequests, demodulated, hdemodulated, rfl⟩ :=
      left_of_decodeSamples hinputs hleft
    obtain ⟨hestimate, hsearch⟩ := kept_of_demodulated hdemodulated
    exact ⟨houtside, hfault, hrequests, hestimate, hsearch, demodulated, hdemodulated, rfl⟩
  · simp only [processed, calls, subframeCalls, processSubframe_of_outside houtside]
    exact ⟨rfl, rfl⟩
  · simp only [processed, calls, subframeCalls, processSubframe_of_few hframe hfew]
    exact ⟨rfl, rfl⟩
  · obtain ⟨hrnti, hfault, hsearch, cfi, hrequests⟩ :=
      left_of_processSubframe hframe hinputs hleft
    refine ⟨hrnti, hfault, hsearch, cfi, hrequests.trans ?_⟩
    rw [formatPlan, List.append_assoc]
    rfl

/-- The late checks: subframe number 10 is refused after two demodulations, and identity 0 after
five calls. -/
theorem left_of_refused_late : ∃ start decoded processed,
    ofCell cellOfTwoPorts 2 () = .ok start ∧
    decodeSamples filling twoSamples 10 start =
      .error (.configuration (.subframeIndex 10)) decoded ∧
    (callsOf (decodeSamples filling.recorded twoSamples 10 (start.noting []))).map (·.request) =
      [.demodulate #[⟨1, 0⟩] (start.grids.get 0), .demodulate #[⟨0, 1⟩] (start.grids.get 1)] ∧
    decoded.estimate = start.estimate ∧
    processSubframe filling 0 0 twoSamples ⟨0⟩ start =
      .error (.configuration .rntiUnset) processed ∧
    (subframeCalls filling start 0 0 twoSamples ⟨0⟩).length = 5 ∧
    processed.search = start.search := by
  obtain ⟨start, decoded, processed, hstart, hdecoded, hprocessed⟩ : ∃ start decoded processed,
      ofCell cellOfTwoPorts 2 () = .ok start ∧
      decodeSamples filling twoSamples 10 start =
        .error (.configuration (.subframeIndex 10)) decoded ∧
      processSubframe filling 0 0 twoSamples ⟨0⟩ start =
        .error (.configuration .rntiUnset) processed :=
    ⟨_, _, _, rfl, rfl, rfl⟩
  have hinputs : 2 ≤ twoSamples.length := by decide
  obtain ⟨-, hlate, -⟩ := left_of_refused filling start 0 10 twoSamples ⟨0⟩
  obtain ⟨-, -, hdemodulations, hestimate, -⟩ := hlate hinputs _ _ hdecoded
  obtain ⟨-, -, -, -, hunassigned⟩ := left_of_refused filling start 0 0 twoSamples ⟨0⟩
  obtain ⟨-, -, hsearch, _, hrequests⟩ := hunassigned (by decide) hinputs _ _ hprocessed
  refine ⟨start, decoded, processed, hstart, hdecoded, hdemodulations, hestimate, hprocessed, ?_,
    hsearch⟩
  rw [← List.length_map, hrequests]
  rfl

/-- What a downlink keeps of one call for the next. -/
def workspace (downlink : Downlink σ cell antennas) :
    Grids cell antennas × CellEstimate cell antennas × Rotator × DciSearch :=
  (downlink.grids, downlink.estimate, downlink.rotator, downlink.search)

/-- **A refused call does not always leave everything as it was.** -/
theorem not_always_unnoticed :
    ¬ ∀ (σ : Type) (cell : CellConfig) (antennas : Nat) (blocks : Blocks σ cell antennas)
      (downlink : Downlink σ cell antennas) (frame : UInt32) (subframe : Nat)
      (inputs : List (Array Sample)) (rnti : Rnti) (fault : ConfigurationFault),
      let decoded := decodeSamples blocks inputs subframe downlink
      let processed := processSubframe blocks frame subframe inputs rnti downlink
      (answerOf decoded = .error (.configuration fault) →
        callsOf (decodeSamples blocks.recorded inputs subframe (downlink.noting [])) = [] ∧
          workspace (stateAfter decoded) = workspace downlink) ∧
      (answerOf processed = .error (.configuration fault) →
        subframeCalls blocks downlink frame subframe inputs rnti = [] ∧
          workspace (stateAfter processed) = workspace downlink) := by
  intro h
  obtain ⟨start, -, hrefused, hcalls⟩ : ∃ start, ofCell cellOfTwoPorts 2 () = .ok start ∧
      answerOf (decodeSamples filling twoSamples 10 start) =
        .error (.configuration (.subframeIndex 10)) ∧
      (callsOf (decodeSamples filling.recorded twoSamples 10 (start.noting []))).length = 2 :=
    ⟨_, rfl, rfl, rfl⟩
  obtain ⟨hnone, -⟩ :=
    (h Unit cellOfTwoPorts 2 filling start 0 10 twoSamples ⟨0⟩ (.subframeIndex 10)).1 hrefused
  rw [hnone] at hcalls
  cases hcalls

end Downlink

end LteReceiver
