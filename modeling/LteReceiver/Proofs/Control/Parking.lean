import LteReceiver.Proofs.Control.Lookups
import LteReceiver.Proofs.Control.Scan

/-!
# Parked uplink grants

A search for format 1A can turn up an uplink grant (`DecoderCall.incidental?`). The first one is
parked if none is, and all others are dropped (`parkedAfter`). The grant then waits for the uplink
lookup of its terminal.

The parking is written at every step of a search, whatever becomes of the search later, so the
statements come in layers: one decoded place, one search, several searches in a row, one lookup.
Then lookups are strung together (`DciSearch.performAll`), and `parked_grants` says what becomes of
a parked grant in every sequence of them.
-/

namespace LteReceiver

/-- What is parked after some calls for a terminal: what was before, or else the first grant that
they turn up. -/
def parkedAfter (rnti : Rnti) (before : Option PendingUplink) (calls : List DecoderCall) :
    Option PendingUplink :=
  before.or (calls.findSome? (·.incidental? rnti))

theorem parkedAfter_append (rnti : Rnti) (before : Option PendingUplink)
    (first second : List DecoderCall) :
    parkedAfter rnti before (first ++ second) =
      parkedAfter rnti (parkedAfter rnti before first) second := by
  simp only [parkedAfter, List.findSome?_append, Option.or_assoc]

theorem parkedAfter_nil (rnti : Rnti) (before : Option PendingUplink) :
    parkedAfter rnti before [] = before :=
  Option.or_none

theorem parkedAfter_some (rnti : Rnti) (parked : PendingUplink) (calls : List DecoderCall) :
    parkedAfter rnti (some parked) calls = some parked :=
  rfl

/-- A search for another format than 1A parks nothing. -/
theorem parkedAfter_of_format_ne {rnti : Rnti} {before : Option PendingUplink}
    {calls : List DecoderCall} (h : ∀ call ∈ calls, call.format ≠ .format1A) :
    parkedAfter rnti before calls = before := by
  have hnone : calls.findSome? (·.incidental? rnti) = none := by
    rw [List.findSome?_eq_none_iff]
    intro call hcall
    unfold DecoderCall.incidental?
    split
    · rfl
    · rw [if_neg fun hc => h call hcall hc.1]
  rw [parkedAfter, hnone, Option.or_none]

variable {σ : Type} {decoder : DciDecoder σ} {format : DciFormat} {rnti : Rnti}

/-! ## One search -/

theorem pending_parkFirst (state : SearchState) (rnti : Rnti) (calls : List DecoderCall) :
    (state.parkFirst rnti calls).pending? = parkedAfter rnti state.pending? calls := by
  rw [SearchState.parkFirst, parkedAfter]
  cases hpending : state.pending? with
  | some parked => exact hpending
  | none =>
    cases calls.findSome? (·.incidental? rnti) with
    | none => exact hpending
    | some grant => rfl

/-- A grant that a decoded place turns up is parked if none is at that moment, and dropped
otherwise. -/
theorem pending_consider_of_incidental (state : SearchState) {location : DciLocation}
    {decoded : DecodedDci} {grant : PendingUplink}
    (h : DecoderCall.incidental? rnti ⟨location, format, .ok decoded⟩ = some grant) :
    (state.consider rnti format location decoded).2.pending? = state.pending?.or (some grant) := by
  rw [SearchState.consider_eq]
  cases hfound : DecoderCall.found? rnti ⟨location, format, .ok decoded⟩ with
  | some message => cases (DecoderCall.incidental?_of_found? hfound).symm.trans h
  | none =>
    dsimp only
    rw [pending_parkFirst, parkedAfter, List.findSome?_singleton, h]

/-- However a search ends, its calls leave parked what they turn up. -/
theorem TrialSearch.pending {state after : SearchState} {all calls : List DecoderCall}
    {answer : Except ReceiveError (Option DciMessage)}
    (h : TrialSearch rnti format state all calls answer after) :
    after.pending? = parkedAfter rnti state.pending? calls := by
  induction h with
  | exhausted => exact (parkedAfter_nil rnti _).symm
  | found rest hfound =>
    rw [SearchState.pending_note, ← pending_parkFirst,
      SearchState.parkFirst_singleton (DecoderCall.incidental?_of_found? hfound)]
  | failed rest hfailed =>
    rw [← pending_parkFirst,
      SearchState.parkFirst_singleton (DecoderCall.incidental?_of_error hfailed)]
  | missed hmiss _ ih =>
    -- the rest of the search starts from what this call has left parked
    rw [ih, pending_parkFirst, ← parkedAfter_append, List.singleton_append]

theorem pending_scan (locations : List DciLocation) (state : SearchState) (s : σ) :
    (stateAfter (scan decoder format rnti locations (state, s))).1.pending? =
      parkedAfter rnti state.pending?
        (notedCalls (scan decoder.recorded format rnti locations (state, s, []))) :=
  (trialSearch_scan decoder rnti format locations state s).pending

/-- A search that finds a message has called its decoder. -/
theorem notedCalls_ne_nil_of_found {locations : List DciLocation} {state : SearchState} {s : σ}
    {message : DciMessage}
    (h : answerOf (scan decoder format rnti locations (state, s)) = .ok (some message)) :
    notedCalls (scan decoder.recorded format rnti locations (state, s, [])) ≠ [] := by
  cases locations with
  | nil => cases h
  | cons location rest =>
    rw [notedCalls_scan_cons]
    split <;> exact List.cons_ne_nil _ _

theorem pending_scanPasses (passes : List (DciFormat × List DciLocation)) (state : SearchState)
    (s : σ) :
    (stateAfter (scanPasses decoder rnti passes (state, s))).1.pending? =
      parkedAfter rnti state.pending?
        (notedCalls (scanPasses decoder.recorded rnti passes (state, s, []))) := by
  induction passes generalizing state s with
  | nil => exact (parkedAfter_nil rnti state.pending?).symm
  | cons pass rest ih =>
    obtain ⟨format, locations⟩ := pass
    rw [notedCalls_scanPasses_cons, scanPasses, parkedAfter_append, ← pending_scan]
    cases scan decoder format rnti locations (state, s) with
    | error e after => exact (parkedAfter_nil rnti _).symm
    | ok found after =>
      obtain ⟨state', s'⟩ := after
      cases found with
      | some message => exact (parkedAfter_nil rnti _).symm
      | none => exact ih state' s'

/-! ## One event -/

namespace LookupEvent

variable {σ : Type}

/-- An event releases a parked grant: an uplink lookup of its terminal whose other arguments are in
the tables, or an order to drop it. -/
def Releases (owner : Rnti) : LookupEvent σ → Prop
  | .uplink _ _ cfi subframe rnti => rnti = owner ∧ InTables cfi subframe
  | .clearPending => True
  | .downlink .. | .setRnti _ => False

/-- A message handed out without a call to the decoder, and the terminal it goes to. -/
def delivered? (event : LookupEvent σ) (record : LookupRecord) : Option (Rnti × DciMessage) :=
  match event, record.answer, record.calls with
  | .uplink _ _ _ _ rnti, .ok (some message), [] => some (rnti, message)
  | _, _, _ => none

end LookupEvent

/-- A lookup that calls its decoder is one for an assigned identity. -/
theorem isAssigned_of_notedCalls {lookup : DciSearch} {mode : TransmissionMode}
    {cfi subframe : Nat} {s : σ}
    (h : notedCalls
      (DciSearch.findDownlink decoder.recorded mode cfi subframe rnti (lookup, s, [])) ≠ []) :
    rnti.isAssigned = true := by
  rcases findDownlink_cases lookup mode cfi subframe rnti with ⟨error, hfail⟩ | ⟨hassigned, -⟩
  · rw [hfail] at h
    exact absurd rfl h
  · exact hassigned

theorem pending_findDownlink (lookup : DciSearch) (mode : TransmissionMode) (cfi subframe : Nat)
    (s : σ) :
    (stateAfter
        (DciSearch.findDownlink decoder mode cfi subframe rnti (lookup, s))).1.state.pending? =
      parkedAfter rnti lookup.state.pending? (notedCalls
        (DciSearch.findDownlink decoder.recorded mode cfi subframe rnti (lookup, s, []))) := by
  rcases findDownlink_cases lookup mode cfi subframe rnti with ⟨error, hfail⟩ | ⟨-, passes, hrun⟩
  · rw [hfail, hfail]
    exact (parkedAfter_nil rnti lookup.state.pending?).symm
  · rw [hrun, hrun, stateAfter_onState, notedCalls_onState]
    exact pending_scanPasses passes lookup.state s

/-- A search for format 0 leaves a parked grant alone. -/
theorem pending_onState_format0 (lookup : DciSearch) (own : List DciLocation) (s : σ) :
    (stateAfter (DciSearch.onState (scan decoder .format0 rnti own) (lookup, s))).1.state.pending? =
      lookup.state.pending? := by
  have hformat : ∀ call ∈
      notedCalls (scan decoder.recorded .format0 rnti own (lookup.state, s, [])),
      call.format ≠ .format1A := by
    intro call hcall
    rw [format_of_mem_scan hcall]
    decide
  rw [stateAfter_onState]
  exact (pending_scan own lookup.state s).trans (parkedAfter_of_format_ne hformat)

/-- A message that a search for format 0 finds is not one handed out without a call. -/
theorem delivered_onState_format0 (lookup : DciSearch) (own : List DciLocation) (s start : σ)
    (cfi subframe : Nat) :
    (LookupEvent.uplink decoder start cfi subframe rnti).delivered?
      ⟨notedCalls (DciSearch.onState (scan decoder.recorded .format0 rnti own) (lookup, s, [])),
        answerOf (DciSearch.onState (scan decoder .format0 rnti own) (lookup, s))⟩ = none := by
  rw [answerOf_onState, notedCalls_onState]
  cases ha : answerOf (scan decoder .format0 rnti own (lookup.state, s)) with
  | error e => rfl
  | ok found =>
    cases found with
    | none => rfl
    | some message =>
      obtain ⟨call, calls, hcalls⟩ := List.exists_cons_of_ne_nil (notedCalls_ne_nil_of_found ha)
      rw [hcalls]
      rfl

/-- A parked grant, as it is handed out: the terminal and the message. -/
def PendingUplink.grant (parked : PendingUplink) : Rnti × DciMessage :=
  (parked.rnti, parked.message)

namespace DciSearch

/-- An event is a downlink lookup, or leaves a parked grant alone, or hands it out, or is an order
to drop it. -/
theorem perform_cases (search : DciSearch) (event : LookupEvent σ) :
    (∃ decoder s mode cfi subframe rnti, event = .downlink decoder s mode cfi subframe rnti) ∨
    (event.delivered? (search.perform event).1 = none ∧
      (search.perform event).2.state.pending? = search.state.pending?) ∨
    (∃ parked, search.state.pending? = some parked ∧ event.Releases parked.rnti ∧
      event.delivered? (search.perform event).1 = some parked.grant ∧
      (search.perform event).2.state.pending? = none) ∨
    event = .clearPending := by
  cases event with
  | downlink decoder s mode cfi subframe rnti => exact .inl ⟨_, _, _, _, _, _, rfl⟩
  | uplink decoder s cfi subframe rnti =>
    right
    simp only [perform]
    rcases findUplink_cases search cfi subframe rnti with
      ⟨error, hfail⟩ | ⟨parked, hparked, howner, htables, hrun⟩ | ⟨own, hrun⟩
    · rw [hfail, hfail]
      exact .inl ⟨rfl, rfl⟩
    · rw [hrun, hrun]
      refine .inr (.inl ⟨parked, hparked, ⟨howner.symm, htables⟩, ?_, rfl⟩)
      rw [PendingUplink.grant, howner]
      rfl
    · rw [hrun, hrun]
      exact .inl ⟨delivered_onState_format0 search own s s cfi subframe,
        pending_onState_format0 search own s⟩
  | setRnti rnti => exact .inr (.inl ⟨rfl, rfl⟩)
  | clearPending => exact .inr (.inr (.inr rfl))

/-! ## What becomes of a grant -/

/-- The grants that are parked, in the order of their parking. -/
def parked (search : DciSearch) : List (LookupEvent σ) → List PendingUplink
  | [] => []
  | event :: rest =>
    let after := (search.perform event).2
    let new := if search.state.pending? = none then after.state.pending? else none
    new.toList ++ after.parked rest

/-- The messages handed out without a call to a decoder, each with the terminal it goes to. -/
def delivered (search : DciSearch) (events : List (LookupEvent σ)) : List (Rnti × DciMessage) :=
  (search.seen events).filterMap fun (event, record) => event.delivered? record

variable {search : DciSearch} {grant : PendingUplink}

/-- A parked grant stays until an event releases it. -/
theorem pending_perform_of_not_releases {event : LookupEvent σ}
    (hparked : search.state.pending? = some grant) (hevent : ¬ event.Releases grant.rnti) :
    (search.perform event).2.state.pending? = some grant := by
  rcases search.perform_cases event with
    ⟨decoder, s, mode, cfi, subframe, rnti, rfl⟩ | ⟨-, hkeeps⟩ | ⟨other, hother, hreleases, -⟩ | rfl
  · refine (pending_findDownlink search mode cfi subframe s).trans ?_
    rw [hparked, parkedAfter_some]
  · exact hkeeps.trans hparked
  · obtain rfl : other = grant := Option.some.inj (hother.symm.trans hparked)
    exact absurd hreleases hevent
  · exact absurd trivial hevent

theorem pending_performAll_of_not_releases {events : List (LookupEvent σ)}
    (hparked : search.state.pending? = some grant)
    (hevents : ∀ event ∈ events, ¬ event.Releases grant.rnti) :
    (search.performAll events).state.pending? = some grant := by
  induction events generalizing search with
  | nil => exact hparked
  | cons event rest ih =>
    exact ih (pending_perform_of_not_releases hparked (hevents event List.mem_cons_self))
      fun other hother => hevents other (List.mem_cons_of_mem event hother)

theorem delivered_cons (search : DciSearch) (event : LookupEvent σ) (rest : List (LookupEvent σ)) :
    search.delivered (event :: rest) =
      (event.delivered? (search.perform event).1).toList ++
        (search.perform event).2.delivered rest := by
  simp only [delivered, seen, List.filterMap_cons]
  cases event.delivered? (search.perform event).1 <;> rfl

/-- An event that leaves a parked grant alone parks none either. -/
theorem parked_cons_of_keeps {event : LookupEvent σ} {rest : List (LookupEvent σ)}
    (h : (search.perform event).2.state.pending? = search.state.pending?) :
    search.parked (event :: rest) = (search.perform event).2.parked rest := by
  simp only [parked, h]
  split <;> simp [*]

/-- What is handed out, followed by what is still parked, was parked in that order, each grant once
and for the terminal that gets it. -/
theorem delivered_sublist (search : DciSearch) (events : List (LookupEvent σ)) :
    (search.delivered events ++
        (search.performAll events).state.pending?.toList.map (·.grant)).Sublist
      ((search.state.pending?.toList ++ search.parked events).map (·.grant)) := by
  induction events generalizing search with
  | nil =>
    rw [parked, List.append_nil]
    exact List.Sublist.refl _
  | cons event rest ih =>
    have ih := ih (search.perform event).2
    rw [performAll_cons, delivered_cons, List.append_assoc]
    rcases search.perform_cases event with
      hdownlink | ⟨hnone, hkeeps⟩ | ⟨grant, hparked, -, hgrant, hafter⟩ | rfl
    · obtain ⟨decoder, s, mode, cfi, subframe, rnti, rfl⟩ := hdownlink
      show (Option.toList none ++ _).Sublist _
      rw [Option.toList_none, List.nil_append]
      cases hparked : search.state.pending? with
      | none =>
        -- whatever the lookup parks is the next of the parked grants
        rw [parked, if_pos hparked]
        exact ih
      | some grant =>
        have hstays :
            (search.perform (.downlink decoder s mode cfi subframe rnti)).2.state.pending? =
              some grant := pending_perform_of_not_releases hparked id
        rw [parked_cons_of_keeps (hstays.trans hparked.symm), ← hstays]
        exact ih
    · rw [hnone, parked_cons_of_keeps hkeeps, ← hkeeps]
      exact ih
    · -- the grant goes from the parked ones to those handed out
      rw [hgrant, hparked]
      simp only [hafter, parked, hparked] at ih ⊢
      exact ih.cons_cons _
    · -- a dropped grant was parked, and is never handed out
      have hdrop : search.parked (.clearPending :: rest) = search.clearPending.parked rest := by
        simp only [parked]
        split <;> rfl
      rw [hdrop, List.map_append]
      exact ih.trans (List.sublist_append_right _ _)

end DciSearch

/-! ## Where a grant comes from -/

/-- A parked grant is a message of format 0 that a lookup for its terminal, looking for format 1A,
was answered with at its place, and with the identity of the terminal as the checksum remainder. -/
def PendingUplink.Genuine (grant : PendingUplink) (seen : List (LookupEvent σ × LookupRecord)) :
    Prop :=
  grant.message.format = .format0 ∧ grant.rnti.isAssigned = true ∧
    ∃ decoder s mode cfi subframe record,
      (.downlink decoder s mode cfi subframe grant.rnti, record) ∈ seen ∧
        ⟨grant.location, .format1A, .ok ⟨grant.message, grant.rnti.value⟩⟩ ∈ record.calls

theorem PendingUplink.Genuine.mono {grant : PendingUplink}
    {seen more : List (LookupEvent σ × LookupRecord)} (h : grant.Genuine seen)
    (hsub : seen ⊆ more) : grant.Genuine more := by
  obtain ⟨hformat, hassigned, decoder, s, mode, cfi, subframe, record, hmem, hcall⟩ := h
  exact ⟨hformat, hassigned, decoder, s, mode, cfi, subframe, record, hsub hmem, hcall⟩

namespace DciSearch

variable {search : DciSearch} {grant : PendingUplink}

/-- A grant parked by a downlink lookup is genuine, by that lookup or by what was seen before. -/
theorem genuine_perform_downlink {decoder : DciDecoder σ} {s : σ} {mode : TransmissionMode}
    {cfi subframe : Nat} {past : List (LookupEvent σ × LookupRecord)}
    (hpast : ∀ other, search.state.pending? = some other → other.Genuine past)
    (hparked : (search.perform (.downlink decoder s mode cfi subframe rnti)).2.state.pending? =
      some grant) :
    grant.Genuine (past ++ [(.downlink decoder s mode cfi subframe rnti,
      (search.perform (.downlink decoder s mode cfi subframe rnti)).1)]) := by
  have hafter := (pending_findDownlink search mode cfi subframe s).symm.trans hparked
  -- either the grant was parked before, or a call of this lookup turned it up
  rcases Option.or_eq_some_iff.mp hafter with hbefore | ⟨-, hfound⟩
  · exact (hpast grant hbefore).mono (List.subset_append_left _ _)
  · obtain ⟨call, hmem, hcall⟩ := List.exists_of_findSome?_eq_some hfound
    have hassigned := isAssigned_of_notedCalls (List.ne_nil_of_mem hmem)
    obtain ⟨rfl, rfl, hformat⟩ := DecoderCall.incidental?_eq_some hcall
    exact ⟨hformat, hassigned, decoder, s, mode, cfi, subframe,
      (search.perform (.downlink decoder s mode cfi subframe grant.rnti)).1,
      List.mem_append_right past List.mem_cons_self, hmem⟩

theorem genuine_perform {event : LookupEvent σ} {past : List (LookupEvent σ × LookupRecord)}
    (hpast : ∀ other, search.state.pending? = some other → other.Genuine past)
    (hparked : (search.perform event).2.state.pending? = some grant) :
    grant.Genuine (past ++ [(event, (search.perform event).1)]) := by
  rcases search.perform_cases event with
    ⟨decoder, s, mode, cfi, subframe, rnti, rfl⟩ | ⟨-, hkeeps⟩ | ⟨_, -, -, -, hnone⟩ | rfl
  · exact genuine_perform_downlink hpast hparked
  · exact (hpast grant (hkeeps.symm.trans hparked)).mono (List.subset_append_left _ _)
  · cases hnone.symm.trans hparked
  · cases hparked

theorem genuine_performAll (past : List (LookupEvent σ × LookupRecord))
    (events : List (LookupEvent σ))
    (hpast : ∀ other, search.state.pending? = some other → other.Genuine past)
    (hparked : (search.performAll events).state.pending? = some grant) :
    grant.Genuine (past ++ search.seen events) := by
  induction events generalizing search past with
  | nil => exact (hpast grant hparked).mono (List.subset_append_left _ _)
  | cons event rest ih =>
    have hafter := ih _ (fun other hother => genuine_perform hpast hother) hparked
    rw [List.append_assoc] at hafter
    exact hafter

end DciSearch

/-! ## Waiting and dropping -/

/-- A grant waits in a search: whatever does not release it leaves it parked, and the next uplink
lookup of its terminal hands it out without a call to the decoder and leaves nothing parked. -/
def PendingUplink.Waits (σ : Type) (grant : PendingUplink) (search : DciSearch) : Prop :=
  ∀ events : List (LookupEvent σ), (∀ event ∈ events, ¬ event.Releases grant.rnti) →
    (search.performAll events).state.pending? = some grant ∧
    ∀ (decoder : DciDecoder σ) (s : σ) (cfi subframe : Nat), InTables cfi subframe →
      (search.performAll events).perform (.uplink decoder s cfi subframe grant.rnti) =
        (⟨[], .ok (some grant.message)⟩, (search.performAll events).clearPending)

theorem PendingUplink.waits {search : DciSearch} {grant : PendingUplink}
    (hassigned : grant.rnti.isAssigned = true) (hparked : search.state.pending? = some grant) :
    grant.Waits σ search := by
  intro events hevents
  have hstays := DciSearch.pending_performAll_of_not_releases hparked hevents
  refine ⟨hstays, fun decoder s cfi subframe htables => ?_⟩
  simp only [DciSearch.perform, findUplink_of_parked htables hassigned hstays]
  rfl

/-- The grant that a call of a lookup turns up is parked if none is parked by then, and dropped
otherwise, whatever the calls after it bring. -/
theorem pending_perform_of_incidental {search : DciSearch} {grant : PendingUplink} {s : σ}
    {mode : TransmissionMode} {cfi subframe : Nat} {earlier later : List DecoderCall}
    {call : DecoderCall}
    (hcalls : (search.perform (.downlink decoder s mode cfi subframe rnti)).1.calls =
      earlier ++ call :: later)
    (hcall : call.incidental? rnti = some grant) :
    (search.perform (.downlink decoder s mode cfi subframe rnti)).2.state.pending? =
      (parkedAfter rnti search.state.pending? earlier).or (some grant) := by
  refine (pending_findDownlink search mode cfi subframe s).trans ?_
  have hlater : parkedAfter rnti none (call :: later) = some grant := by
    simp [parkedAfter, hcall]
  show parkedAfter rnti search.state.pending? (search.perform (.downlink decoder s mode cfi subframe
    rnti)).1.calls = _
  rw [hcalls, parkedAfter_append]
  cases parkedAfter rnti search.state.pending? earlier with
  | none => exact hlater
  | some first => rfl

/--
**The parking of uplink grants.** In every sequence of lookups:

* a parked grant is genuine, and it waits;
* the grants that were handed out, followed by the one that is still parked, are among those that
  were parked, in the order of their parking and each for its own terminal;
* an uplink grant that a search for format 1A comes across is parked if none is at that moment, and
  dropped otherwise;
* a lookup leaves parked what was parked before it, or else the first such grant among its calls,
  whatever else it comes across and however it ends.
-/
theorem parked_grants (cell : CellConfig) (events : List (LookupEvent σ)) :
    let start := DciSearch.ofCell cell
    let search := start.performAll events
    (∀ grant, search.state.pending? = some grant →
      grant.Genuine (start.seen events) ∧ grant.Waits σ search) ∧
    (start.delivered events ++ search.state.pending?.toList.map (·.grant)).Sublist
      ((start.parked events).map (·.grant)) ∧
    (∀ state location format decoded rnti grant,
      DecoderCall.incidental? rnti ⟨location, format, .ok decoded⟩ = some grant →
        (SearchState.consider state rnti format location decoded).2.pending? =
          state.pending?.or (some grant)) ∧
    ∀ (decoder : DciDecoder σ) s mode cfi subframe rnti,
      let (record, after) := search.perform (.downlink decoder s mode cfi subframe rnti)
      ∀ earlier call later grant, record.calls = earlier ++ call :: later →
        call.incidental? rnti = some grant →
        after.state.pending? =
          (parkedAfter rnti search.state.pending? earlier).or (some grant) := by
  intro start search
  have hstart : start.state.pending? = none := rfl
  refine ⟨fun grant hparked => ?_, ?_, fun state _ _ _ _ _ => pending_consider_of_incidental state,
    fun decoder s mode cfi subframe rnti => ?_⟩
  · have hgenuine : grant.Genuine (start.seen events) :=
      DciSearch.genuine_performAll [] events (by simp [hstart]) hparked
    exact ⟨hgenuine, PendingUplink.waits hgenuine.2.1 hparked⟩
  · have h := start.delivered_sublist events
    rwa [hstart] at h
  · exact fun earlier call later grant => pending_perform_of_incidental

/-- A decoder that reads its answers from a list, and fails at the end of it. -/
def scripted : DciDecoder (List DecodedDci) where
  decodeAt _ _
    | [] => .error (.decodeFailed "no answer") []
    | decoded :: rest => .ok decoded rest

/-- A cell with a single place for broadcast messages of four elements. -/
def narrowCell : CellConfig :=
  ⟨6, 1, .normal, ⟨1⟩, .one, .normal⟩

/-- An uplink grant, told from others by its cyclic shift. -/
def uplinkGrant (cyclicShift : Nat) : DciMessage :=
  ⟨.format0, { (default : DciFields) with cyclicShift := cyclicShift }⟩

/-- A lookup comes across two uplink grants before its decoder fails. -/
def twoFound : List (LookupEvent (List DecodedDci)) :=
  [.downlink scripted [⟨uplinkGrant 1, 0x46⟩, ⟨uplinkGrant 2, 0x46⟩] .tm1 3 0 ⟨0x46⟩]

/-- The first one of them, as it is parked. -/
def firstFound : PendingUplink :=
  ⟨⟨0x46⟩, uplinkGrant 1, ⟨0, 2⟩⟩

/-- The first one is parked and handed out to the terminal, and the second one is dropped. -/
theorem parked_grants_twoFound :
    ((DciSearch.ofCell narrowCell).performAll twoFound).state.pending? = some firstFound ∧
      firstFound.Genuine ((DciSearch.ofCell narrowCell).seen twoFound) ∧
      firstFound.Waits (List DecodedDci) ((DciSearch.ofCell narrowCell).performAll twoFound) ∧
      (DciSearch.ofCell narrowCell).delivered (twoFound ++ [.uplink scripted [] 3 0 ⟨0x46⟩]) =
        [firstFound.grant] := by
  have hparked : ((DciSearch.ofCell narrowCell).performAll twoFound).state.pending? =
      some firstFound := rfl
  have hgrant := (parked_grants narrowCell twoFound).1 firstFound hparked
  exact ⟨hparked, hgrant.1, hgrant.2, rfl⟩

end LteReceiver
