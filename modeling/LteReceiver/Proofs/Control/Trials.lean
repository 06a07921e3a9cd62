import LteReceiver.Proofs.Control.Candidates

/-!
# What a search makes of the answers

A search makes the trials of its places up to the first one that does not miss (`FirstEnd`), and
that one decides how it ends: it finds a message or fails. If all trials miss, nothing is found.

What a search does besides, it does at every miss: an uplink grant is parked, unless one is parked
already. The parking survives whichever way the search ends, so the three ends (`TrialEnd`) say what
is left as well: the first uplink grant among the calls is parked (`SearchState.parkFirst`), and the
place of a message that was found is noted. What a search does follows from them (`BlindSearchEnd`,
`outcome_of_blindSearch`).
-/

namespace LteReceiver

variable {σ : Type}

/-! ## The call that ends a search -/

/-- A call of a row is the first one that does not miss. -/
structure FirstEnd (rnti : Rnti) (all earlier : List DecoderCall) (call : DecoderCall) : Prop where
  split : ∃ later, all = earlier ++ call :: later
  misses : ∀ other ∈ earlier, other.Misses rnti
  ends : ¬ call.Misses rnti

section Calls

variable {rnti : Rnti} {all earlier earlier' : List DecoderCall} {call call' : DecoderCall}

theorem not_misses_of_found? {message : DciMessage} (h : call.found? rnti = some message) :
    ¬ call.Misses rnti := by
  intro hmisses
  rw [hmisses.2] at h
  cases h

theorem not_misses_of_error {cause : ExternalError} (h : call.answer = .error cause) :
    ¬ call.Misses rnti := by
  rintro ⟨⟨decoded, hanswer⟩, -⟩
  rw [h] at hanswer
  cases hanswer

theorem FirstEnd.head (h : ¬ call.Misses rnti) (rest : List DecoderCall) :
    FirstEnd rnti (call :: rest) [] call where
  split := ⟨rest, rfl⟩
  misses := by simp
  ends := h

theorem FirstEnd.cons (h : FirstEnd rnti all earlier call) (hmiss : call'.Misses rnti) :
    FirstEnd rnti (call' :: all) (call' :: earlier) call where
  split := by
    obtain ⟨later, hsplit⟩ := h.split
    exact ⟨later, by rw [hsplit, List.cons_append]⟩
  misses := List.forall_mem_cons.mpr ⟨hmiss, h.misses⟩
  ends := h.ends

/-- No call that misses stands in front of a row that starts with one that does not. -/
theorem eq_nil_of_misses {between later later' : List DecoderCall}
    (hmisses : ∀ other ∈ between, other.Misses rnti) (hends : ¬ call.Misses rnti)
    (h : call :: later = between ++ call' :: later') : between = [] ∧ call = call' := by
  cases between with
  | nil => exact ⟨rfl, (List.cons.inj h).1⟩
  | cons first rest =>
    obtain ⟨rfl, -⟩ := List.cons.inj h
    exact absurd (hmisses call List.mem_cons_self) hends

/-- There is one such call at most. -/
theorem FirstEnd.unique (h : FirstEnd rnti all earlier call)
    (h' : FirstEnd rnti all earlier' call') : earlier = earlier' ∧ call = call' := by
  obtain ⟨later, hsplit⟩ := h.split
  obtain ⟨later', hsplit'⟩ := h'.split
  -- what one of the two has before its call, and the other has not, would have to miss
  rcases List.append_eq_append_iff.mp (hsplit.symm.trans hsplit') with
    ⟨between, rfl, hcalls⟩ | ⟨between, rfl, hcalls⟩
  · have hbetween : ∀ other ∈ between, other.Misses rnti :=
      fun other hother => h'.misses other (List.mem_append_right earlier hother)
    obtain ⟨rfl, hsame⟩ := eq_nil_of_misses hbetween h.ends hcalls
    exact ⟨(List.append_nil earlier).symm, hsame⟩
  · have hbetween : ∀ other ∈ between, other.Misses rnti :=
      fun other hother => h.misses other (List.mem_append_right earlier' hother)
    obtain ⟨rfl, hsame⟩ := eq_nil_of_misses hbetween h'.ends hcalls
    exact ⟨List.append_nil earlier', hsame.symm⟩

theorem FirstEnd.mem (h : FirstEnd rnti all earlier call) : call ∈ all := by
  obtain ⟨later, hsplit⟩ := h.split
  simp [hsplit]

theorem FirstEnd.isPrefix (h : FirstEnd rnti all earlier call) : earlier ++ [call] <+: all := by
  obtain ⟨later, hsplit⟩ := h.split
  exact ⟨later, by simp [hsplit]⟩

end Calls

/-! ## The ends of a search -/

/--
The three ends of a search: all trials miss, the first one that does not finds a message, or it
fails. The calls go as far as that, and the first uplink grant among them is parked.
-/
inductive TrialEnd (rnti : Rnti) (format : DciFormat) (state : SearchState)
    (all calls : List DecoderCall) :
    Except ReceiveError (Option DciMessage) → SearchState → Prop where
  | missed (hmisses : ∀ call ∈ all, call.Misses rnti) (hcalls : calls = all) :
      TrialEnd rnti format state all calls (.ok none) (state.parkFirst rnti calls)
  | found {earlier : List DecoderCall} {call : DecoderCall} {message : DciMessage}
      (hfirst : FirstEnd rnti all earlier call) (hcalls : calls = earlier ++ [call])
      (hfound : call.found? rnti = some message) :
      TrialEnd rnti format state all calls (.ok (some message))
        ((state.parkFirst rnti calls).note format call.location)
  | failed {earlier : List DecoderCall} {call : DecoderCall} {cause : ExternalError}
      (hfirst : FirstEnd rnti all earlier call) (hcalls : calls = earlier ++ [call])
      (hfailed : call.answer = .error cause) :
      TrialEnd rnti format state all calls
        (.error (.decode (.candidate call.location.firstCce cause))) (state.parkFirst rnti calls)

section Ends

variable {rnti : Rnti} {format : DciFormat} {state after : SearchState}
  {all calls : List DecoderCall} {answer : Except ReceiveError (Option DciMessage)}

/-- A miss in front of a search parks its grant, and does not change how the search ends. -/
theorem TrialEnd.cons {call : DecoderCall} (hmiss : call.Misses rnti)
    (h : TrialEnd rnti format (state.parkFirst rnti [call]) all calls answer after) :
    TrialEnd rnti format state (call :: all) (call :: calls) answer after := by
  cases h with
  | missed hmisses hcalls =>
    rw [← SearchState.parkFirst_cons]
    exact .missed (List.forall_mem_cons.mpr ⟨hmiss, hmisses⟩) (congrArg (call :: ·) hcalls)
  | found hfirst hcalls hfound =>
    rw [← SearchState.parkFirst_cons]
    exact .found (hfirst.cons hmiss) (congrArg (call :: ·) hcalls) hfound
  | failed hfirst hcalls hfailed =>
    rw [← SearchState.parkFirst_cons]
    exact .failed (hfirst.cons hmiss) (congrArg (call :: ·) hcalls) hfailed

theorem TrialSearch.ends (h : TrialSearch rnti format state all calls answer after) :
    TrialEnd rnti format state all calls answer after := by
  induction h with
  | @exhausted state =>
    have hparked : state.parkFirst rnti [] = state := SearchState.parkFirst_of_none (by simp)
    have hend : TrialEnd rnti format state [] [] (.ok none) (state.parkFirst rnti []) :=
      .missed (by simp) rfl
    rwa [hparked] at hend
  | @found state call message rest hfound =>
    have hparked : state.parkFirst rnti [call] = state :=
      SearchState.parkFirst_singleton (DecoderCall.incidental?_of_found? hfound)
    have hend : TrialEnd rnti format state (call :: rest) [call] (.ok (some message))
        ((state.parkFirst rnti [call]).note format call.location) :=
      .found (.head (not_misses_of_found? hfound) rest) rfl hfound
    rwa [hparked] at hend
  | @failed state call cause rest hfailed =>
    have hparked : state.parkFirst rnti [call] = state :=
      SearchState.parkFirst_singleton (DecoderCall.incidental?_of_error hfailed)
    have hend : TrialEnd rnti format state (call :: rest) [call]
        (.error (.decode (.candidate call.location.firstCce cause)))
        (state.parkFirst rnti [call]) :=
      .failed (.head (not_misses_of_error hfailed) rest) rfl hfailed
    rwa [hparked] at hend
  | missed hmiss _ ih => exact ih.cons hmiss

/-- The first trial that does not miss is the last call, and decides how a search ends. -/
theorem TrialEnd.of_firstEnd (h : TrialEnd rnti format state all calls answer after)
    {earlier : List DecoderCall} {call : DecoderCall} (hfirst : FirstEnd rnti all earlier call) :
    calls = earlier ++ [call] ∧
      ((∃ message, call.found? rnti = some message ∧ answer = .ok (some message)) ∨
        ∃ cause, call.answer = .error cause ∧
          answer = .error (.decode (.candidate call.location.firstCce cause))) := by
  cases h with
  | missed hmisses => exact absurd (hmisses call hfirst.mem) hfirst.ends
  | found hfirst' hcalls hfound =>
    obtain ⟨rfl, rfl⟩ := hfirst.unique hfirst'
    exact ⟨hcalls, .inl ⟨_, hfound, rfl⟩⟩
  | failed hfirst' hcalls hfailed =>
    obtain ⟨rfl, rfl⟩ := hfirst.unique hfirst'
    exact ⟨hcalls, .inr ⟨_, hfailed, rfl⟩⟩

/-- A message is found by the first trial that does not miss. -/
theorem TrialEnd.found_iff (h : TrialEnd rnti format state all calls answer after)
    (message : DciMessage) : answer = .ok (some message) ↔
      ∃ earlier call, FirstEnd rnti all earlier call ∧ call.found? rnti = some message := by
  constructor
  · rintro rfl
    cases h with
    | found hfirst _ hfound => exact ⟨_, _, hfirst, hfound⟩
  · rintro ⟨earlier, call, hfirst, hfound⟩
    rcases (h.of_firstEnd hfirst).2 with ⟨found, hsame, hanswer⟩ | ⟨cause, hfailed, -⟩
    · rw [hanswer, ← hsame, hfound]
    · simp [DecoderCall.found?, hfailed] at hfound

/-- A search fails as the first trial that does not miss. -/
theorem TrialEnd.failed_iff (h : TrialEnd rnti format state all calls answer after)
    (error : ReceiveError) : answer = .error error ↔
      ∃ earlier call cause, FirstEnd rnti all earlier call ∧ call.answer = .error cause ∧
        error = .decode (.candidate call.location.firstCce cause) := by
  constructor
  · rintro rfl
    cases h with
    | failed hfirst _ hfailed => exact ⟨_, _, _, hfirst, hfailed, rfl⟩
  · rintro ⟨earlier, call, cause, hfirst, hfailed, rfl⟩
    rcases (h.of_firstEnd hfirst).2 with ⟨message, hfound, -⟩ | ⟨cause', hsame, hanswer⟩
    · simp [DecoderCall.found?, hfailed] at hfound
    · rw [hfailed] at hsame
      cases hsame
      exact hanswer

/-- A search finds nothing if all its trials miss. -/
theorem TrialEnd.missed_iff (h : TrialEnd rnti format state all calls answer after) :
    answer = .ok none ↔ ∀ call ∈ all, call.Misses rnti := by
  cases h with
  | missed hmisses => exact iff_of_true rfl hmisses
  | found hfirst =>
    exact iff_of_false (by simp) fun hmisses => hfirst.ends (hmisses _ hfirst.mem)
  | failed hfirst =>
    exact iff_of_false (by simp) fun hmisses => hfirst.ends (hmisses _ hfirst.mem)

/-- What a search does, given the calls for all its places: which of them it makes, what it answers,
and what it leaves. -/
structure BlindSearchEnd (rnti : Rnti) (format : DciFormat) (state : SearchState)
    (all calls : List DecoderCall) (answer : Except ReceiveError (Option DciMessage))
    (after : SearchState) : Prop where
  calls_isPrefix : calls <+: all
  /-- The first call that does not miss is the last one made. -/
  calls_of_firstEnd : ∀ earlier call, FirstEnd rnti all earlier call → calls = earlier ++ [call]
  found_iff : ∀ message, answer = .ok (some message) ↔
    ∃ earlier call, FirstEnd rnti all earlier call ∧ call.found? rnti = some message
  failed_iff : ∀ error, answer = .error error ↔
    ∃ earlier call cause, FirstEnd rnti all earlier call ∧ call.answer = .error cause ∧
      error = .decode (.candidate call.location.firstCce cause)
  missed_iff : answer = .ok none ↔ ∀ call ∈ all, call.Misses rnti
  after_found : ∀ message, answer = .ok (some message) →
    ∃ call, calls.getLast? = some call ∧ call.found? rnti = some message ∧
      after = if format = .format0 then
          { state.parkFirst rnti calls with lastUplink := call.location }
        else { state.parkFirst rnti calls with lastDownlink := call.location }
  after_failed : ∀ error, answer = .error error → after = state.parkFirst rnti calls
  after_missed : answer = .ok none → calls = all ∧ after = state.parkFirst rnti calls

theorem TrialSearch.blindSearchEnd (h : TrialSearch rnti format state all calls answer after) :
    BlindSearchEnd rnti format state all calls answer after where
  calls_isPrefix := h.isPrefix
  calls_of_firstEnd _ _ hfirst := (h.ends.of_firstEnd hfirst).1
  found_iff := h.ends.found_iff
  failed_iff := h.ends.failed_iff
  missed_iff := h.ends.missed_iff
  after_found message hanswer := by
    cases hanswer ▸ h.ends with
    | @found earlier call _ _ hcalls hfound =>
      refine ⟨call, ?_, hfound, rfl⟩
      rw [hcalls]
      exact List.getLast?_concat
  after_failed error hanswer := by
    cases hanswer ▸ h.ends with
    | failed => rfl
  after_missed hanswer := by
    cases hanswer ▸ h.ends with
    | missed _ hcalls => exact ⟨hcalls, rfl⟩

end Ends

/--
**A blind search ends at the first trial that does not miss.**

Let a decoder be asked for the format at all places in a row. A search for an assigned identity
makes these calls from the first one on. It answers with a message if the first call that does not
miss finds that message, it fails if that call fails, and in both cases this is the last call it
makes. If all calls miss, it makes all of them and answers that there is nothing.

However it ends, a grant that was parked before stays parked. If none was, the first uplink grant
that the calls turned up in a search for format 1A is parked, and its place is the last one of an
uplink message. A message that is found leaves its place as the last one of its kind. Nothing else
is changed.
-/
theorem outcome_of_blindSearch {rnti : Rnti} (hassigned : rnti.isAssigned = true)
    (decoder : DciDecoder σ) (locations : List DciLocation) (format : DciFormat)
    (state : SearchState) (s : σ) :
    let all := trials decoder format locations s
    let run := blindSearch decoder locations format rnti (state, s)
    let noted := blindSearch decoder.recorded locations format rnti (state, s, [])
    all.map (·.candidate) = candidatesAt format locations ∧ forgetCalls noted = run ∧
      BlindSearchEnd rnti format state all (notedCalls noted) (answerOf run)
        (stateAfter run).1 := by
  have hscan : ∀ {τ : Type} (decoder : DciDecoder τ),
      blindSearch decoder locations format rnti = scan decoder format rnti locations := by
    intro τ decoder
    rw [blindSearch, if_pos hassigned]
  simp only [hscan]
  exact ⟨candidates_trials decoder format locations s, forgetCalls_scan locations state s [],
    (trialSearch_scan decoder rnti format locations state s).blindSearchEnd⟩

/-- A terminal's downlink message stands behind an uplink grant for it. -/
def uplinkFirst : List DecodedDci :=
  [⟨uplinkGrant 1, 0x46⟩, ⟨⟨.format1A, default⟩, 0x46⟩]

/-- The uplink grant is parked on the way to the downlink message, and the third place is not
tried. -/
theorem outcome_of_blindSearch_uplinkFirst :
    let run := blindSearch scripted [⟨0, 2⟩, ⟨4, 2⟩, ⟨8, 2⟩] .format1A ⟨0x46⟩ (default, uplinkFirst)
    (⟨0x46⟩ : Rnti).isAssigned = true ∧
      answerOf run = .ok (some ⟨.format1A, default⟩) ∧
      (∃ earlier call, FirstEnd ⟨0x46⟩
        (trials scripted .format1A [⟨0, 2⟩, ⟨4, 2⟩, ⟨8, 2⟩] uplinkFirst) earlier call ∧
        call.found? ⟨0x46⟩ = some ⟨.format1A, default⟩) ∧
      (stateAfter run).1 = ⟨some firstFound, ⟨4, 2⟩, ⟨0, 2⟩⟩ := by
  intro run
  have hassigned : (⟨0x46⟩ : Rnti).isAssigned = true := by decide
  have hanswer : answerOf run = .ok (some ⟨.format1A, default⟩) := rfl
  obtain ⟨-, -, hend⟩ := outcome_of_blindSearch hassigned scripted [⟨0, 2⟩, ⟨4, 2⟩, ⟨8, 2⟩]
    .format1A default uplinkFirst
  obtain ⟨call, hlast, -, hafter⟩ := hend.after_found _ hanswer
  cases hlast
  exact ⟨hassigned, hanswer, (hend.found_iff _).mp hanswer, hafter⟩

end LteReceiver
