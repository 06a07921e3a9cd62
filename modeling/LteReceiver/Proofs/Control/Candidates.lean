import Mathlib.Control.Monad.Basic
import LteReceiver.Proofs.Control.Parking
import LteReceiver.Proofs.Control.Tables

/-!
# The order of a downlink lookup

A downlink lookup has a fixed list of candidates, formats at places (`downlinkCandidates`), and
tries them one after the other. `CandidateSearch` relates candidates, calls and answer: candidates
are missed until one is found or a call fails, and the answer tells which.

The relation holds of a search for one format (`TrialSearch.candidateSearch`), is put together along
searches in a row (`search_scanPasses`), and so holds of a lookup (`candidates_of_downlink`),
whichever lists the table of search spaces keeps.
-/

namespace LteReceiver

/-! ## Candidates and calls -/

/-- A format tried at a place. -/
abbrev Candidate := DciFormat × DciLocation

/-- A format tried at places in a row. -/
def candidatesAt (format : DciFormat) (locations : List DciLocation) : List Candidate :=
  locations.map (format, ·)

/-- The candidates of a downlink lookup in a cell. Broadcast identities have the common space only.
-/
def downlinkCandidates (cell : CellConfig) (mode : TransmissionMode) (cfi subframe : Nat)
    (rnti : Rnti) : List Candidate :=
  let common := commonLocations (cell.cceCount cfi)
  let own := ueLocations (cell.cceCount cfi) subframe rnti
  if rnti.kind.isCommon then candidatesAt .format1A common ++ candidatesAt .format1C common
  else candidatesAt mode.formats.1 own ++ candidatesAt mode.formats.2 own ++
    candidatesAt .format1A common

namespace DecoderCall

/-- What a call tries. -/
def candidate (call : DecoderCall) : Candidate :=
  (call.format, call.location)

end DecoderCall

/-! ## Searches -/

/-- A search over candidates: its calls, its answer, and the place that is remembered after it,
which is the one from before it unless a message is found. -/
inductive CandidateSearch (rnti : Rnti) (before : DciLocation) : List Candidate → List DecoderCall →
    Except ReceiveError (Option DciMessage) → DciLocation → Prop where
  /-- Nothing is left to try. -/
  | exhausted : CandidateSearch rnti before [] [] (.ok none) before
  | found {call : DecoderCall} {message : DciMessage} (rest : List Candidate)
      (h : call.found? rnti = some message) :
      CandidateSearch rnti before (call.candidate :: rest) [call] (.ok (some message)) call.location
  | failed {call : DecoderCall} {cause : ExternalError} (rest : List Candidate)
      (h : call.answer = .error cause) :
      CandidateSearch rnti before (call.candidate :: rest) [call]
        (.error (.decode (.candidate call.location.firstCce cause))) before
  | missed {call : DecoderCall} {rest : List Candidate} {calls : List DecoderCall}
      {answer : Except ReceiveError (Option DciMessage)} {after : DciLocation}
      (h : call.Misses rnti) (hrest : CandidateSearch rnti before rest calls answer after) :
      CandidateSearch rnti before (call.candidate :: rest) (call :: calls) answer after

namespace CandidateSearch

variable {rnti : Rnti} {before middle after : DciLocation} {candidates more : List Candidate}
  {calls moreCalls : List DecoderCall} {answer : Except ReceiveError (Option DciMessage)}

/-- Candidates that find nothing are followed by further ones. -/
theorem append (h : CandidateSearch rnti before candidates calls (.ok none) middle)
    (hmore : CandidateSearch rnti middle more moreCalls answer after) :
    CandidateSearch rnti before (candidates ++ more) (calls ++ moreCalls) answer after := by
  generalize hnone : Except.ok none = first at h
  induction h with
  | exhausted => exact hmore
  | found => cases hnone
  | failed => cases hnone
  | missed hmiss _ ih => exact .missed hmiss (ih hmore hnone)

/-- Further candidates do not matter to a search that ends before them. -/
theorem append_of_ne (h : CandidateSearch rnti before candidates calls answer after)
    (hne : answer ≠ .ok none) (more : List Candidate) :
    CandidateSearch rnti before (candidates ++ more) calls answer after := by
  induction h with
  | exhausted => exact absurd rfl hne
  | found rest hfound => exact .found (rest ++ more) hfound
  | failed rest hfailed => exact .failed (rest ++ more) hfailed
  | missed hmiss _ ih => exact .missed hmiss (ih hne)

/-- The calls try a first part of the candidates, in their order. -/
theorem isPrefix (h : CandidateSearch rnti before candidates calls answer after) :
    calls.map (·.candidate) <+: candidates := by
  induction h with
  | exhausted => exact List.nil_prefix
  | found rest _ => exact ⟨rest, rfl⟩
  | failed rest _ => exact ⟨rest, rfl⟩
  | missed _ _ ih => exact (List.prefix_cons_inj _).mpr ih

/-- A search goes on after a miss only. -/
theorem misses_of_dropLast (h : CandidateSearch rnti before candidates calls answer after) :
    ∀ call ∈ calls.dropLast, call.Misses rnti := by
  induction h with
  | exhausted => exact fun _ hmem => nomatch hmem
  | found => exact fun _ hmem => nomatch hmem
  | failed => exact fun _ hmem => nomatch hmem
  | @missed call rest calls answer after hmiss _ ih =>
    cases calls with
    | nil => exact fun _ hmem => nomatch hmem
    | cons next calls =>
      rw [List.dropLast_cons_of_ne_nil (List.cons_ne_nil next calls)]
      exact List.forall_mem_cons.mpr ⟨hmiss, ih⟩

/-- The three ends of a search: nothing found by any candidate, a message found by the last call,
and a last call that failed. -/
theorem ends (h : CandidateSearch rnti before candidates calls answer after) :
    (answer = .ok none ∧ calls.map (·.candidate) = candidates ∧
      (∀ call ∈ calls, call.Misses rnti) ∧ after = before) ∨
    (∃ call message, answer = .ok (some message) ∧ calls.getLast? = some call ∧
      call.found? rnti = some message ∧ after = call.location) ∨
    ∃ call cause, answer = .error (.decode (.candidate call.location.firstCce cause)) ∧
      calls.getLast? = some call ∧ call.answer = .error cause ∧ after = before := by
  induction h with
  | exhausted => exact .inl ⟨rfl, rfl, (fun _ hmem => nomatch hmem), rfl⟩
  | @found call message _ hfound => exact .inr (.inl ⟨call, message, rfl, rfl, hfound, rfl⟩)
  | @failed call cause _ hfailed => exact .inr (.inr ⟨call, cause, rfl, rfl, hfailed, rfl⟩)
  | @missed call rest calls answer after hmiss hrest ih =>
    have hlast : ∀ last, calls.getLast? = some last → (call :: calls).getLast? = some last := by
      intro last hcalls
      rw [List.getLast?_cons, hcalls, Option.getD_some]
    rcases ih with ⟨hanswer, hall, hmisses, hafter⟩ | ⟨last, message, hanswer, hcalls, hends⟩ |
      ⟨last, cause, hanswer, hcalls, hends⟩
    · refine .inl ⟨hanswer, ?_, List.forall_mem_cons.mpr ⟨hmiss, hmisses⟩, hafter⟩
      rw [List.map_cons, hall]
    · exact .inr (.inl ⟨last, message, hanswer, hlast last hcalls, hends⟩)
    · exact .inr (.inr ⟨last, cause, hanswer, hlast last hcalls, hends⟩)

end CandidateSearch

/-! ## Searches of the code -/

/-- The place that a search for a format remembers. -/
def SearchState.lastOf (state : SearchState) (format : DciFormat) : DciLocation :=
  if format = .format0 then state.lastUplink else state.lastDownlink

theorem SearchState.lastOf_note (state : SearchState) (format : DciFormat)
    (location : DciLocation) : (state.note format location).lastOf format = location := by
  simp only [lastOf, note]
  split <;> rfl

/-- Only a search for format 1A parks a grant, and the place that it remembers is that of a downlink
message. -/
theorem SearchState.lastOf_parkFirst (state : SearchState) (rnti : Rnti) {format : DciFormat}
    {calls : List DecoderCall} (h : ∀ call ∈ calls, call.format = format) :
    (state.parkFirst rnti calls).lastOf format = state.lastOf format := by
  rw [parkFirst]
  split
  next grant _ hgrant =>
    obtain ⟨call, hmem, hincidental⟩ := List.exists_of_findSome?_eq_some hgrant
    obtain ⟨rfl, -, -⟩ := DecoderCall.incidental?_eq_some hincidental
    obtain rfl : DciFormat.format1A = format := h _ hmem
    rfl
  next => rfl

/-- Every place is tried once, in the order of the places. -/
theorem candidates_trials {σ : Type} (decoder : DciDecoder σ) (format : DciFormat)
    (locations : List DciLocation) (s : σ) :
    (trials decoder format locations s).map (·.candidate) = candidatesAt format locations := by
  induction locations generalizing s with
  | nil => rfl
  | cons location rest ih =>
    rw [trials, List.map_cons, ih]
    rfl

/-- A search of trials for its format is a search over what they try. -/
theorem TrialSearch.candidateSearch {rnti : Rnti} {format : DciFormat}
    {state after : SearchState} {all calls : List DecoderCall}
    {answer : Except ReceiveError (Option DciMessage)}
    (h : TrialSearch rnti format state all calls answer after)
    (hall : ∀ call ∈ all, call.format = format) :
    CandidateSearch rnti (state.lastOf format) (all.map (·.candidate)) calls answer
      (after.lastOf format) := by
  induction h with
  | exhausted => exact .exhausted
  | found rest hfound =>
    rw [SearchState.lastOf_note]
    exact .found _ hfound
  | failed rest hfailed => exact .failed _ hfailed
  | @missed state after call rest calls answer hmiss _ ih =>
    obtain ⟨hcall, hrest⟩ := List.forall_mem_cons.mp hall
    have hsearch := ih hrest
    rw [SearchState.lastOf_parkFirst state rnti (by simp [hcall])] at hsearch
    exact .missed hmiss hsearch

section Runs

variable {σ : Type} (decoder : DciDecoder σ) (rnti : Rnti)

theorem search_scan (format : DciFormat) (locations : List DciLocation) (state : SearchState)
    (s : σ) :
    CandidateSearch rnti (state.lastOf format) (candidatesAt format locations)
      (notedCalls (scan decoder.recorded format rnti locations (state, s, [])))
      (answerOf (scan decoder format rnti locations (state, s)))
      ((stateAfter (scan decoder format rnti locations (state, s))).1.lastOf format) := by
  rw [← candidates_trials decoder format locations s]
  exact (trialSearch_scan decoder rnti format locations state s).candidateSearch
    fun _ hcall => format_of_mem_trials hcall

/-- The candidates of searches in a row. -/
def passCandidates (passes : List (DciFormat × List DciLocation)) : List Candidate :=
  passes.flatMap fun (format, locations) => candidatesAt format locations

/-- Searches for downlink formats in a row are one search over all their candidates. -/
theorem search_scanPasses {passes : List (DciFormat × List DciLocation)}
    (hpasses : ∀ pass ∈ passes, pass.1 ≠ .format0) (state : SearchState) (s : σ) :
    CandidateSearch rnti state.lastDownlink (passCandidates passes)
      (notedCalls (scanPasses decoder.recorded rnti passes (state, s, [])))
      (answerOf (scanPasses decoder rnti passes (state, s)))
      (stateAfter (scanPasses decoder rnti passes (state, s))).1.lastDownlink := by
  induction passes generalizing state s with
  | nil => exact .exhausted
  | cons pass rest ih =>
    obtain ⟨format, locations⟩ := pass
    obtain ⟨hformat, hrest⟩ := List.forall_mem_cons.mp hpasses
    have hlast : ∀ state : SearchState, state.lastOf format = state.lastDownlink :=
      fun _ => if_neg hformat
    have hfirst := search_scan decoder rnti format locations state s
    rw [hlast, hlast] at hfirst
    rw [notedCalls_scanPasses_cons, scanPasses]
    show CandidateSearch rnti state.lastDownlink
      (candidatesAt format locations ++ passCandidates rest) _ _ _
    cases hscan : scan decoder format rnti locations (state, s) with
    | error error after =>
      rw [hscan] at hfirst
      rw [List.append_nil]
      exact hfirst.append_of_ne (fun h => by cases h) _
    | ok found after =>
      obtain ⟨state', s'⟩ := after
      rw [hscan] at hfirst
      cases found with
      | some message =>
        rw [List.append_nil]
        exact hfirst.append_of_ne (fun h => by cases h) _
      | none => exact hfirst.append (ih hrest state' s')

end Runs

/-! ## A lookup -/

section Lookup

variable {cell : CellConfig} {search : DciSearch} {mode : TransmissionMode} {cfi subframe : Nat}
  {rnti : Rnti}

/-- None of the searches of a downlink lookup is for uplink grants. -/
theorem format_ne_of_downlinkPasses? {passes : List (DciFormat × List DciLocation)}
    (h : search.downlinkPasses? mode cfi subframe rnti = some passes) :
    ∀ pass ∈ passes, pass.1 ≠ .format0 := by
  unfold DciSearch.downlinkPasses? at h
  split at h
  · obtain ⟨common, -, hpasses⟩ := Option.bind_eq_some_iff.mp h
    cases hpasses
    simp
  · obtain ⟨own, -, hrest⟩ := Option.bind_eq_some_iff.mp h
    obtain ⟨common, -, hpasses⟩ := Option.bind_eq_some_iff.mp hrest
    cases hpasses
    cases mode <;> simp [TransmissionMode.formats]

/-- With arguments in the tables a lookup is a row of searches. -/
theorem passes_of_inTables (search : DciSearch) (mode : TransmissionMode) (rnti : Rnti)
    (htables : InTables cfi subframe) :
    ∃ passes, search.downlinkPasses? mode cfi subframe rnti = some passes := by
  obtain ⟨hlow, hhigh, hsubframe⟩ := htables
  obtain ⟨own, hown⟩ := search.space.exists_ue? rnti ⟨hlow, hhigh⟩ hsubframe
  obtain ⟨common, hcommon⟩ := search.space.exists_common? ⟨hlow, hhigh⟩
  unfold DciSearch.downlinkPasses?
  split
  · rw [hcommon]
    exact ⟨_, rfl⟩
  · rw [hown, hcommon]
    exact ⟨_, rfl⟩

/-- The searches of a lookup are over the candidates of the cell, whichever lists are kept. -/
theorem passCandidates_eq (hspace : search.space.Serves cell) (htables : InTables cfi subframe)
    {passes : List (DciFormat × List DciLocation)}
    (hpasses : search.downlinkPasses? mode cfi subframe rnti = some passes) :
    passCandidates passes = downlinkCandidates cell mode cfi subframe rnti := by
  obtain ⟨hlow, hhigh, hsubframe⟩ := htables
  have hcommon := hspace.common?_eq ⟨hlow, hhigh⟩
  have hown := hspace.ue?_eq rnti ⟨hlow, hhigh⟩ hsubframe
  unfold DciSearch.downlinkPasses? at hpasses
  unfold downlinkCandidates
  split at hpasses
  next hkind =>
    rw [hcommon] at hpasses
    cases hpasses
    simp [passCandidates, hkind]
  next hkind =>
    rw [hcommon, hown] at hpasses
    cases hpasses
    simp [passCandidates, hkind]

theorem length_downlinkCandidates_le (cell : CellConfig) (mode : TransmissionMode)
    (cfi subframe : Nat) (rnti : Rnti) :
    (downlinkCandidates cell mode cfi subframe rnti).length ≤ 38 := by
  have hown := length_ueLocations_le (cell.cceCount cfi) subframe rnti
  have hcommon := length_commonLocations_le (cell.cceCount cfi)
  simp only [maxUeCandidates, maxCommonCandidates] at hown hcommon
  simp only [downlinkCandidates, candidatesAt]
  split
  · simp only [List.length_append, List.length_map]
    omega
  · simp only [List.length_append, List.length_map]
    omega

/-- No candidate of a downlink lookup is an uplink grant. -/
theorem format_ne_of_mem_downlinkCandidates {candidate : Candidate}
    (h : candidate ∈ downlinkCandidates cell mode cfi subframe rnti) : candidate.1 ≠ .format0 := by
  unfold downlinkCandidates at h
  simp only [candidatesAt] at h
  split at h
  · simp only [List.mem_append, List.mem_map] at h
    rcases h with ⟨location, -, rfl⟩ | ⟨location, -, rfl⟩ <;> exact fun h => nomatch h
  · simp only [List.mem_append, List.mem_map] at h
    rcases h with (⟨location, -, rfl⟩ | ⟨location, -, rfl⟩) | ⟨location, -, rfl⟩ <;>
      cases mode <;> exact fun h => nomatch h

/-- With arguments in the tables and an assigned identity a lookup is a search over candidates, and
over those of the cell if the table serves it. -/
theorem search_findDownlink {σ : Type} (decoder : DciDecoder σ) (s : σ) (search : DciSearch)
    (mode : TransmissionMode) (htables : InTables cfi subframe)
    (hassigned : rnti.isAssigned = true) :
    let (record, after) := search.perform (.downlink decoder s mode cfi subframe rnti)
    ∃ candidates, CandidateSearch rnti search.state.lastDownlink candidates record.calls
        record.answer after.state.lastDownlink ∧
      ∀ cell, search.space.Serves cell →
        candidates = downlinkCandidates cell mode cfi subframe rnti := by
  obtain ⟨passes, hpasses⟩ := passes_of_inTables search mode rnti htables
  have hrun : ∀ {τ : Type} (decoder : DciDecoder τ) (s : τ),
      DciSearch.findDownlink decoder mode cfi subframe rnti (search, s) =
        DciSearch.onState (scanPasses decoder rnti passes) (search, s) := by
    intro τ decoder s
    simp only [DciSearch.findDownlink, check_eq_ok_iff.mpr ⟨htables, hassigned⟩, hpasses]
  simp only [DciSearch.perform, hrun, notedCalls_onState, answerOf_onState, stateAfter_onState]
  have hformats := format_ne_of_downlinkPasses? hpasses
  exact ⟨passCandidates passes, search_scanPasses decoder rnti hformats search.state s,
    fun cell hspace => passCandidates_eq hspace htables hpasses⟩

/-- With other arguments a lookup is refused, whatever the identity. The number of control symbols
is refused first. -/
theorem findDownlink_of_not_inTables {σ : Type} (htables : ¬ InTables cfi subframe)
    (decoder : DciDecoder σ) (s : σ) :
    DciSearch.findDownlink decoder mode cfi subframe rnti (search, s) =
      .error (.configuration (if cfi < 1 ∨ maxCfi < cfi then .cfiRange cfi
        else .subframeIndex subframe)) (search, s) := by
  have hcheck : DciSearch.check cfi subframe rnti = .error (if cfi < 1 ∨ maxCfi < cfi then
      .cfiRange cfi else .subframeIndex subframe) := by
    unfold DciSearch.check
    split
    · rfl
    next hcfi =>
      have hsubframe : subframesPerFrame ≤ subframe := by
        unfold InTables at htables
        omega
      exact if_pos hsubframe
  simp only [DciSearch.findDownlink, hcheck]

/-- An identity that is not assigned is refused after that. -/
theorem findDownlink_of_unassigned {σ : Type} (htables : InTables cfi subframe)
    (hrnti : rnti.isAssigned = false) (decoder : DciDecoder σ) (s : σ) :
    DciSearch.findDownlink decoder mode cfi subframe rnti (search, s) =
      .error (.configuration .rntiUnset) (search, s) := by
  obtain ⟨hlow, hhigh, hsubframe⟩ := htables
  have hcheck : DciSearch.check cfi subframe rnti = .error .rntiUnset := by
    unfold DciSearch.check
    rw [if_neg (by omega), if_neg (by omega), hrnti]
    rfl
  simp only [DciSearch.findDownlink, hcheck]

/--
**Downlink lookups try their candidates in order.**

With arguments in the tables and an assigned identity a lookup calls its decoder for a first part of
the candidates of the cell, which are at most 38, and goes on after a miss only. It ends in one of
three ways:

* nothing is found, after all candidates;
* the last call finds a message, which is no uplink grant, and its place is remembered;
* the last call fails.

With other arguments it is refused, without a call and with nothing changed.
-/
theorem candidates_of_downlink {σ : Type} (hspace : search.space.Serves cell)
    (hassigned : rnti.isAssigned = true) (decoder : DciDecoder σ) (s : σ) (mode : TransmissionMode)
    (cfi subframe : Nat) :
    let candidates := downlinkCandidates cell mode cfi subframe rnti
    let (record, after) := search.perform (.downlink decoder s mode cfi subframe rnti)
    (InTables cfi subframe →
      record.calls.map (·.candidate) <+: candidates ∧ candidates.length ≤ 38 ∧
      (∀ call ∈ record.calls.dropLast, call.Misses rnti) ∧
      ((record.answer = .ok none ∧ record.calls.map (·.candidate) = candidates ∧
          (∀ call ∈ record.calls, call.Misses rnti) ∧
          after.state.lastDownlink = search.state.lastDownlink) ∨
        (∃ call message, record.answer = .ok (some message) ∧
          record.calls.getLast? = some call ∧ call.found? rnti = some message ∧
          message.format ≠ .format0 ∧ after.state.lastDownlink = call.location) ∨
        ∃ call cause,
          record.answer = .error (.decode (.candidate call.location.firstCce cause)) ∧
          record.calls.getLast? = some call ∧ call.answer = .error cause ∧
          after.state.lastDownlink = search.state.lastDownlink)) ∧
    (¬ InTables cfi subframe →
      record.answer = .error (.configuration (if cfi < 1 ∨ maxCfi < cfi then .cfiRange cfi
        else .subframeIndex subframe)) ∧
      record.calls = [] ∧ after = search) := by
  intro candidates
  refine ⟨fun htables => ?_, fun htables => ?_⟩
  · obtain ⟨_, hsearch, hcandidates⟩ :=
      search_findDownlink decoder s search mode htables hassigned
    obtain rfl := hcandidates cell hspace
    have hlength := length_downlinkCandidates_le cell mode cfi subframe rnti
    refine ⟨hsearch.isPrefix, hlength, hsearch.misses_of_dropLast, ?_⟩
    rcases hsearch.ends with hnone | ⟨call, message, hanswer, hlast, hfound, hafter⟩ | hfailed
    · exact .inl hnone
    · have hmem : call.candidate ∈ candidates :=
        hsearch.isPrefix.subset (List.mem_map_of_mem (List.mem_of_getLast? hlast))
      have hformat : message.format ≠ .format0 := by
        rw [DecoderCall.format_of_found? hfound]
        exact format_ne_of_mem_downlinkCandidates hmem
      exact .inr (.inl ⟨call, message, hanswer, hlast, hfound, hformat, hafter⟩)
    · exact .inr (.inr hfailed)
  · simp only [findDownlink_of_not_inTables htables]
    exact ⟨rfl, rfl, rfl⟩

/-- A decoder that knows one downlink message, and answers for its format at its place only. Its
state is the number of calls. -/
def singleMessage (location : DciLocation) (rnti : Rnti) (message : DciMessage) :
    DciDecoder Nat where
  decodeAt place format n :=
    if place = location ∧ format = message.format then .ok ⟨message, rnti.value⟩ (n + 1)
    else .ok ⟨⟨format, default⟩, 0⟩ (n + 1)

/-- The message of the second format of mode 3 is found after all places were tried with the first
one, although the table keeps the lists of another terminal. -/
theorem candidates_of_downlink_secondFormat :
    let message : DciMessage := ⟨.format2A, default⟩
    let search := (DciSearch.ofCell narrowCell).setRnti ⟨0x51⟩
    let (record, after) := search.perform
      (.downlink (singleMessage ⟨2, 1⟩ ⟨0x46⟩ message) 0 .tm3 3 0 ⟨0x46⟩)
    record.calls.length = 18 ∧ record.answer = .ok (some message) ∧
      record.calls.map (·.candidate) <+: downlinkCandidates narrowCell .tm3 3 0 ⟨0x46⟩ ∧
      (∀ call ∈ record.calls.dropLast, call.Misses ⟨0x46⟩) ∧
      after.state.lastDownlink = ⟨2, 1⟩ := by
  intro message search
  have hspace : search.space.Serves narrowCell := .setRnti ⟨0x51⟩ .ofCell
  have hassigned : (⟨0x46⟩ : Rnti).isAssigned = true := by decide
  have htables : InTables 3 0 := by unfold InTables; decide
  obtain ⟨hfirst, -, hmisses, -⟩ := (candidates_of_downlink hspace hassigned
    (singleMessage ⟨2, 1⟩ ⟨0x46⟩ message) 0 .tm3 3 0).1 htables
  exact ⟨by decide +kernel, by decide +kernel, hfirst, hmisses, by decide +kernel⟩

end Lookup

end LteReceiver
