import LteReceiver.Control.BlindSearch
import LteReceiver.Proofs.Action

/-!
# The calls of a lookup

Which calls a lookup makes to its decoder is seen by running it with a decoder that writes them down
(`DciDecoder.recorded`). Such a run is the run with the decoder itself, once its notes are forgotten
(`forgetCalls_findDownlink`, `forgetCalls_findUplink`).
-/

namespace LteReceiver

/-- A call to a decoder and its answer. -/
structure DecoderCall where
  location : DciLocation
  format : DciFormat
  answer : Except ExternalError DecodedDci

variable {σ τ ε α : Type}

/-- The decoder with notes of its calls, the first one first. -/
def DciDecoder.recorded (decoder : DciDecoder σ) : DciDecoder (σ × List DecoderCall) where
  decodeAt location format := fun (s, calls) =>
    match decoder.decodeAt location format s with
    | .ok decoded s => .ok decoded (s, calls ++ [⟨location, format, .ok decoded⟩])
    | .error e s => .error e (s, calls ++ [⟨location, format, .error e⟩])

/-- The notes at the end of a run. -/
def notedCalls (result : EStateM.Result ε (τ × σ × List DecoderCall) α) : List DecoderCall :=
  (stateAfter result).2.2

/-- A run without the notes. -/
def forgetCalls : EStateM.Result ε (τ × σ × List DecoderCall) α → EStateM.Result ε (τ × σ) α
  | .ok answer (state, s, _) => .ok answer (state, s)
  | .error e (state, s, _) => .error e (state, s)

/-- A run with given notes. -/
def withCalls (calls : List DecoderCall) :
    EStateM.Result ε (τ × σ) α → EStateM.Result ε (τ × σ × List DecoderCall) α
  | .ok answer (state, s) => .ok answer (state, s, calls)
  | .error e (state, s) => .error e (state, s, calls)

theorem withCalls_forgetCalls (result : EStateM.Result ε (τ × σ × List DecoderCall) α) :
    withCalls (notedCalls result) (forgetCalls result) = result := by
  cases result <;> rfl

/-! ## Notes do not matter -/

variable {decoder : DciDecoder σ} {format : DciFormat} {rnti : Rnti}

theorem forgetCalls_scan (locations : List DciLocation) (state : SearchState) (s : σ)
    (calls : List DecoderCall) :
    forgetCalls (scan decoder.recorded format rnti locations (state, s, calls)) =
      scan decoder format rnti locations (state, s) := by
  induction locations generalizing state s calls with
  | nil => rfl
  | cons location rest ih =>
    simp only [scan, DciDecoder.recorded]
    cases decoder.decodeAt location format s with
    | error e s' => rfl
    | ok decoded s' =>
      dsimp only
      cases state.consider rnti format location decoded with
      | mk found state' =>
        cases found with
        | some message => rfl
        | none => exact ih state' s' _

theorem forgetCalls_scanPasses (passes : List (DciFormat × List DciLocation)) (state : SearchState)
    (s : σ) (calls : List DecoderCall) :
    forgetCalls (scanPasses decoder.recorded rnti passes (state, s, calls)) =
      scanPasses decoder rnti passes (state, s) := by
  induction passes generalizing state s calls with
  | nil => rfl
  | cons pass rest ih =>
    obtain ⟨format, locations⟩ := pass
    simp only [scanPasses]
    rw [← forgetCalls_scan locations state s calls]
    cases scan decoder.recorded format rnti locations (state, s, calls) with
    | error e after => rfl
    | ok found after =>
      obtain ⟨state', s', calls'⟩ := after
      cases found with
      | some message => rfl
      | none => exact ih state' s' calls'

theorem forgetCalls_onState
    {noted : EStateM ReceiveError (SearchState × σ × List DecoderCall) (Option DciMessage)}
    {plain : EStateM ReceiveError (SearchState × σ) (Option DciMessage)} (lookup : DciSearch)
    (s : σ) (calls : List DecoderCall)
    (h : forgetCalls (noted (lookup.state, s, calls)) = plain (lookup.state, s)) :
    forgetCalls (DciSearch.onState noted (lookup, s, calls)) =
      DciSearch.onState plain (lookup, s) := by
  simp only [DciSearch.onState, ← h]
  cases noted (lookup.state, s, calls) <;> rfl

variable {mode : TransmissionMode} {cfi subframe : Nat}

theorem forgetCalls_findDownlink (lookup : DciSearch) (s : σ) (calls : List DecoderCall) :
    forgetCalls
        (DciSearch.findDownlink decoder.recorded mode cfi subframe rnti (lookup, s, calls)) =
      DciSearch.findDownlink decoder mode cfi subframe rnti (lookup, s) := by
  simp only [DciSearch.findDownlink]
  split
  · rfl
  · split
    · rfl
    · exact forgetCalls_onState lookup s calls (forgetCalls_scanPasses _ _ s calls)

theorem forgetCalls_findUplink (lookup : DciSearch) (s : σ) (calls : List DecoderCall) :
    forgetCalls (DciSearch.findUplink decoder.recorded cfi subframe rnti (lookup, s, calls)) =
      DciSearch.findUplink decoder cfi subframe rnti (lookup, s) := by
  simp only [DciSearch.findUplink]
  split
  · rfl
  · split
    · rfl
    · split
      · rfl
      · exact forgetCalls_onState lookup s calls (forgetCalls_scan _ _ s calls)

/-! ## The calls of a search -/

/-- Notes are only added. -/
theorem notedCalls_scan (locations : List DciLocation) (state : SearchState) (s : σ)
    (calls : List DecoderCall) :
    notedCalls (scan decoder.recorded format rnti locations (state, s, calls)) =
      calls ++ notedCalls (scan decoder.recorded format rnti locations (state, s, [])) := by
  induction locations generalizing state s calls with
  | nil => exact (List.append_nil calls).symm
  | cons location rest ih =>
    simp only [scan, DciDecoder.recorded]
    cases decoder.decodeAt location format s with
    | error e s' => rfl
    | ok decoded s' =>
      dsimp only
      cases state.consider rnti format location decoded with
      | mk found state' =>
        cases found with
        | some message => rfl
        | none =>
          -- both runs go on from the same state, each with its own notes
          show notedCalls (scan decoder.recorded format rnti rest (state', s', calls ++ _)) =
            calls ++ notedCalls (scan decoder.recorded format rnti rest (state', s', [] ++ _))
          rw [ih state' s' (calls ++ _), ih state' s' ([] ++ _), List.nil_append, List.append_assoc]

/-- A search calls for its first place, and goes on if that neither fails nor ends it. -/
theorem notedCalls_scan_cons (location : DciLocation) (rest : List DciLocation)
    (state : SearchState) (s : σ) :
    notedCalls (scan decoder.recorded format rnti (location :: rest) (state, s, [])) =
      match decoder.decodeAt location format s with
      | .error e _ => [⟨location, format, .error e⟩]
      | .ok decoded s => ⟨location, format, .ok decoded⟩ ::
        match state.consider rnti format location decoded with
        | (some _, _) => []
        | (none, state) => notedCalls (scan decoder.recorded format rnti rest (state, s, [])) := by
  rw [scan, DciDecoder.recorded]
  dsimp only
  cases decoder.decodeAt location format s with
  | error e s' => rfl
  | ok decoded s' =>
    dsimp only
    cases state.consider rnti format location decoded with
    | mk found state' =>
      cases found with
      | some message => rfl
      | none => exact notedCalls_scan rest state' s' _

/-! ## The calls of a lookup -/

/-- A search over notes is the search with its calls added to them. -/
theorem scan_recorded (locations : List DciLocation) (state : SearchState) (s : σ)
    (calls : List DecoderCall) :
    scan decoder.recorded format rnti locations (state, s, calls) =
      withCalls
        (calls ++ notedCalls (scan decoder.recorded format rnti locations (state, s, [])))
        (scan decoder format rnti locations (state, s)) := by
  rw [← notedCalls_scan, ← forgetCalls_scan locations state s calls, withCalls_forgetCalls]

theorem notedCalls_scanPasses (passes : List (DciFormat × List DciLocation)) (state : SearchState)
    (s : σ) (calls : List DecoderCall) :
    notedCalls (scanPasses decoder.recorded rnti passes (state, s, calls)) =
      calls ++ notedCalls (scanPasses decoder.recorded rnti passes (state, s, [])) := by
  induction passes generalizing state s calls with
  | nil => exact (List.append_nil calls).symm
  | cons pass rest ih =>
    obtain ⟨format, locations⟩ := pass
    simp only [scanPasses]
    rw [scan_recorded locations state s calls, scan_recorded locations state s []]
    cases scan decoder format rnti locations (state, s) with
    | error e after => rfl
    | ok found after =>
      obtain ⟨state', s'⟩ := after
      cases found with
      | some message => rfl
      | none =>
        dsimp only [withCalls]
        rw [ih state' s' (calls ++ _), ih state' s' ([] ++ _), List.nil_append, List.append_assoc]
        rfl

/-- Passes call for the first one, and go on if that neither fails nor finds a message. -/
theorem notedCalls_scanPasses_cons (locations : List DciLocation)
    (rest : List (DciFormat × List DciLocation)) (state : SearchState) (s : σ) :
    notedCalls (scanPasses decoder.recorded rnti ((format, locations) :: rest) (state, s, [])) =
      notedCalls (scan decoder.recorded format rnti locations (state, s, [])) ++
        match scan decoder format rnti locations (state, s) with
        | .ok none (state, s) => notedCalls (scanPasses decoder.recorded rnti rest (state, s, []))
        | _ => [] := by
  rw [scanPasses, scan_recorded locations state s []]
  cases scan decoder format rnti locations (state, s) with
  | error e after => exact (List.append_nil _).symm
  | ok found after =>
    obtain ⟨state', s'⟩ := after
    cases found with
    | some message => exact (List.append_nil _).symm
    | none => exact notedCalls_scanPasses rest state' s' _

theorem notedCalls_onState
    (search : EStateM ReceiveError (SearchState × σ × List DecoderCall) (Option DciMessage))
    (lookup : DciSearch) (s : σ) (calls : List DecoderCall) :
    notedCalls (DciSearch.onState search (lookup, s, calls)) =
      notedCalls (search (lookup.state, s, calls)) := by
  simp only [DciSearch.onState]
  cases search (lookup.state, s, calls) <;> rfl

theorem stateAfter_onState (search : EStateM ReceiveError (SearchState × σ) (Option DciMessage))
    (lookup : DciSearch) (s : σ) :
    (stateAfter (DciSearch.onState search (lookup, s))).1 =
      { lookup with state := (stateAfter (search (lookup.state, s))).1 } := by
  simp only [DciSearch.onState]
  cases search (lookup.state, s) <;> rfl

theorem answerOf_onState (search : EStateM ReceiveError (SearchState × σ) (Option DciMessage))
    (lookup : DciSearch) (s : σ) :
    answerOf (DciSearch.onState search (lookup, s)) = answerOf (search (lookup.state, s)) := by
  simp only [DciSearch.onState]
  cases search (lookup.state, s) <;> rfl

end LteReceiver
