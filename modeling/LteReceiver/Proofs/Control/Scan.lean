import LteReceiver.Proofs.Control.Recording

/-!
# One search

What a search makes of a decoded place is in the call: it finds a message (`DecoderCall.found?`) and
ends the search, or it may turn up an uplink grant, which is parked unless one is parked already
(`DecoderCall.incidental?`, `SearchState.parkFirst`). `SearchState.consider_eq` says so of a single
place, and facts about searches rest on it.

A decoder can be asked for a format at a list of places in a row, whatever it answers (`trials`).
Its state goes from one call to the next, so an answer may depend on all calls before it. A search
makes the first of these calls, and `TrialSearch` relates the trials with the calls that are made,
the answer, and the states before and after. The relation holds of the code (`trialSearch_scan`), so
facts about a search follow by induction on it.
-/

namespace LteReceiver

/-! ## What a call says -/

namespace DecoderCall

/-- The message a call finds: one of the format tried, with the terminal's identity as the checksum
remainder. -/
def found? (rnti : Rnti) (call : DecoderCall) : Option DciMessage :=
  match call.answer with
  | .error _ => none
  | .ok decoded =>
    if decoded.remainder = rnti.value ∧ decoded.message.format = call.format then
      some decoded.message
    else none

/-- A call is answered, and finds nothing. -/
def Misses (rnti : Rnti) (call : DecoderCall) : Prop :=
  (∃ decoded, call.answer = .ok decoded) ∧ call.found? rnti = none

/-- The uplink grant for a terminal that a call turns up in a search for format 1A. -/
def incidental? (rnti : Rnti) (call : DecoderCall) : Option PendingUplink :=
  match call.answer with
  | .error _ => none
  | .ok decoded =>
    if call.format = .format1A ∧ decoded.message.format = .format0 ∧
        decoded.remainder = rnti.value then
      some ⟨rnti, decoded.message, call.location⟩
    else none

variable {rnti : Rnti} {call : DecoderCall} {message : DciMessage}

theorem format_of_found? (h : call.found? rnti = some message) : message.format = call.format := by
  unfold found? at h
  split at h
  · cases h
  · split at h
    next hc => cases h; exact hc.2
    next => cases h

theorem incidental?_eq_some {grant : PendingUplink} (h : call.incidental? rnti = some grant) :
    call = ⟨grant.location, .format1A, .ok ⟨grant.message, rnti.value⟩⟩ ∧ grant.rnti = rnti ∧
      grant.message.format = .format0 := by
  obtain ⟨location, format, answer⟩ := call
  unfold incidental? at h
  split at h
  · cases h
  · next decoded hanswer =>
    by_cases hc : format = .format1A ∧ decoded.message.format = .format0 ∧
        decoded.remainder = rnti.value
    · obtain rfl := Option.some.inj ((if_pos hc).symm.trans h)
      obtain ⟨rfl, hmessage, hremainder⟩ := hc
      obtain rfl : answer = .ok decoded := hanswer
      exact ⟨by rw [← hremainder], rfl, hmessage⟩
    · cases (if_neg hc).symm.trans h

/-- A message of the format searched for is no uplink grant found by chance. -/
theorem incidental?_of_found? (h : call.found? rnti = some message) :
    call.incidental? rnti = none := by
  cases hincidental : call.incidental? rnti with
  | none => rfl
  | some grant =>
    obtain ⟨rfl, -, hformat⟩ := incidental?_eq_some hincidental
    simp [found?, hformat] at h

theorem incidental?_of_error {cause : ExternalError} (h : call.answer = .error cause) :
    call.incidental? rnti = none := by
  rw [incidental?, h]

end DecoderCall

/-! ## One decoded place -/

namespace SearchState

variable {rnti : Rnti} {state : SearchState}

/-- The state after calls that end no search: the first uplink grant that they turn up is parked,
and its place is remembered, unless a grant was parked before. -/
def parkFirst (state : SearchState) (rnti : Rnti) (calls : List DecoderCall) : SearchState :=
  match state.pending?, calls.findSome? (·.incidental? rnti) with
  | none, some grant => { state with pending? := some grant, lastUplink := grant.location }
  | _, _ => state

theorem parkFirst_of_none {calls : List DecoderCall}
    (h : ∀ call ∈ calls, call.incidental? rnti = none) : state.parkFirst rnti calls = state := by
  have hnone : calls.findSome? (·.incidental? rnti) = none := List.findSome?_eq_none_iff.mpr h
  rw [parkFirst, hnone]
  cases state.pending? <;> rfl

theorem parkFirst_singleton {call : DecoderCall} (h : call.incidental? rnti = none) :
    state.parkFirst rnti [call] = state :=
  parkFirst_of_none (by simp [h])

/-- A grant that is parked by a call stays for those after it. -/
theorem parkFirst_cons (state : SearchState) (call : DecoderCall) (calls : List DecoderCall) :
    state.parkFirst rnti (call :: calls) =
      (state.parkFirst rnti [call]).parkFirst rnti calls := by
  simp only [parkFirst, List.findSome?_cons, List.findSome?_nil]
  cases hpending : state.pending? with
  | some parked => simp [hpending]
  | none =>
    cases hincidental : call.incidental? rnti with
    | none => simp [hpending]
    | some grant => simp

/-- A decoded place ends a search, which notes the place, or it is passed over and an uplink grant
in it is parked. -/
theorem consider_eq (state : SearchState) (rnti : Rnti) (format : DciFormat)
    (location : DciLocation) (decoded : DecodedDci) :
    let call : DecoderCall := ⟨location, format, .ok decoded⟩
    state.consider rnti format location decoded = match call.found? rnti with
      | some message => (some message, state.note format location)
      | none => (none, state.parkFirst rnti [call]) := by
  intro call
  by_cases hremainder : decoded.remainder = rnti.value
  · by_cases hincidental : decoded.message.format = .format0 ∧ format = .format1A
    · -- an uplink grant is not of the format that is searched for
      obtain ⟨hmessage, rfl⟩ := hincidental
      simp only [consider, parkFirst, park, DecoderCall.found?, DecoderCall.incidental?, call,
        hremainder, hmessage, List.findSome?_singleton]
      cases state.pending? <;> simp
    · have hnone : call.incidental? rnti = none := if_neg fun hc => hincidental ⟨hc.2.1, hc.1⟩
      rw [parkFirst_singleton hnone]
      by_cases hformat : decoded.message.format = format
      · subst hformat
        simp [consider, DecoderCall.found?, call, hremainder, hincidental]
      · simp [consider, DecoderCall.found?, call, hremainder, hformat, hincidental]
  · have hnone : call.incidental? rnti = none := if_neg fun hc => hremainder hc.2.2
    simp [consider, DecoderCall.found?, call, hremainder, parkFirst_singleton hnone]

theorem pending_note (state : SearchState) (format : DciFormat) (location : DciLocation) :
    (state.note format location).pending? = state.pending? := by
  rw [note]
  split <;> rfl

end SearchState

/-! ## Trials -/

variable {σ : Type}

/-- The calls for a format at places in a row, whatever the decoder answers. -/
def trials (decoder : DciDecoder σ) (format : DciFormat) : List DciLocation → σ → List DecoderCall
  | [], _ => []
  | location :: rest, s =>
    let result := decoder.decodeAt location format s
    ⟨location, format, answerOf result⟩ :: trials decoder format rest (stateAfter result)

theorem format_of_mem_trials {decoder : DciDecoder σ} {format : DciFormat}
    {locations : List DciLocation} {s : σ} {call : DecoderCall}
    (h : call ∈ trials decoder format locations s) : call.format = format := by
  induction locations generalizing s with
  | nil => cases h
  | cons location rest ih =>
    rcases List.mem_cons.mp h with rfl | hrest
    · rfl
    · exact ih hrest

/-- A search of trials: the calls it makes, its answer, and the state that it leaves. -/
inductive TrialSearch (rnti : Rnti) (format : DciFormat) : SearchState → List DecoderCall →
    List DecoderCall → Except ReceiveError (Option DciMessage) → SearchState → Prop where
  /-- Nothing is left to try. -/
  | exhausted {state : SearchState} : TrialSearch rnti format state [] [] (.ok none) state
  | found {state : SearchState} {call : DecoderCall} {message : DciMessage}
      (rest : List DecoderCall) (h : call.found? rnti = some message) :
      TrialSearch rnti format state (call :: rest) [call] (.ok (some message))
        (state.note format call.location)
  | failed {state : SearchState} {call : DecoderCall} {cause : ExternalError}
      (rest : List DecoderCall) (h : call.answer = .error cause) :
      TrialSearch rnti format state (call :: rest) [call]
        (.error (.decode (.candidate call.location.firstCce cause))) state
  | missed {state after : SearchState} {call : DecoderCall} {rest calls : List DecoderCall}
      {answer : Except ReceiveError (Option DciMessage)} (h : call.Misses rnti)
      (hrest : TrialSearch rnti format (state.parkFirst rnti [call]) rest calls answer after) :
      TrialSearch rnti format state (call :: rest) (call :: calls) answer after

theorem trialSearch_scan (decoder : DciDecoder σ) (rnti : Rnti) (format : DciFormat)
    (locations : List DciLocation) (state : SearchState) (s : σ) :
    TrialSearch rnti format state (trials decoder format locations s)
      (notedCalls (scan decoder.recorded format rnti locations (state, s, [])))
      (answerOf (scan decoder format rnti locations (state, s)))
      (stateAfter (scan decoder format rnti locations (state, s))).1 := by
  induction locations generalizing state s with
  | nil => exact .exhausted
  | cons location rest ih =>
    rw [notedCalls_scan_cons, scan, trials]
    cases decoder.decodeAt location format s with
    | error cause s' =>
      have hfailed : (⟨location, format, .error cause⟩ : DecoderCall).answer = .error cause := rfl
      exact .failed _ hfailed
    | ok decoded s' =>
      have hconsider := state.consider_eq rnti format location decoded
      dsimp only [answerOf, stateAfter] at hconsider ⊢
      rw [hconsider]
      cases hfound : DecoderCall.found? rnti ⟨location, format, .ok decoded⟩ with
      | some message => exact .found _ hfound
      | none => exact .missed ⟨⟨decoded, rfl⟩, hfound⟩ (ih _ s')

/-- A search makes the first of its trials. -/
theorem TrialSearch.isPrefix {rnti : Rnti} {format : DciFormat} {state after : SearchState}
    {all calls : List DecoderCall} {answer : Except ReceiveError (Option DciMessage)}
    (h : TrialSearch rnti format state all calls answer after) : calls <+: all := by
  induction h with
  | exhausted => exact List.nil_prefix
  | found rest _ => exact ⟨rest, rfl⟩
  | failed rest _ => exact ⟨rest, rfl⟩
  | missed _ _ ih => exact (List.prefix_cons_inj _).mpr ih

/-- Every call of a search is for its format. -/
theorem format_of_mem_scan {decoder : DciDecoder σ} {rnti : Rnti} {format : DciFormat}
    {locations : List DciLocation} {state : SearchState} {s : σ} {call : DecoderCall}
    (h : call ∈ notedCalls (scan decoder.recorded format rnti locations (state, s, []))) :
    call.format = format :=
  format_of_mem_trials ((trialSearch_scan decoder rnti format locations state s).isPrefix.subset h)

end LteReceiver
