import LteReceiver.Proofs.Control.Candidates

/-!
# Where the last uplink message stood

A search that finds an uplink message notes its place, and so does a search that parks an uplink
grant (`SearchState.UplinkStep`). Nothing is noted when a parked grant is handed out. So the place
at hand then is the grant's own only if no other uplink message was found by a search while the
grant was waiting (`PendingUplink.HasWaited`), and else it is the place of that message.
`place_of_uplink` says which place is at hand whenever an uplink lookup has answered with a message.
-/

namespace LteReceiver

variable {σ : Type} {decoder : DciDecoder σ} {format : DciFormat} {rnti : Rnti}

/-! ## Searches for downlink messages -/

/-- What is remembered of uplink messages stays as it is, or a grant is parked and its place noted.
-/
inductive SearchState.UplinkStep (state after : SearchState) : Prop where
  | keeps (hpending : after.pending? = state.pending?) (hlast : after.lastUplink = state.lastUplink)
  | parks (hnone : state.pending? = none) {grant : PendingUplink}
      (hparked : after.pending? = some grant) (hlast : after.lastUplink = grant.location)

namespace SearchState.UplinkStep

variable {state middle after : SearchState}

theorem refl (state : SearchState) : state.UplinkStep state :=
  .keeps rfl rfl

theorem trans (h : state.UplinkStep middle) (hrest : middle.UplinkStep after) :
    state.UplinkStep after := by
  cases h with
  | keeps hpending hlast =>
    cases hrest with
    | keeps hpending' hlast' => exact .keeps (hpending'.trans hpending) (hlast'.trans hlast)
    | parks hnone hparked hlast' => exact .parks (hpending.symm.trans hnone) hparked hlast'
  | parks hnone hparked hlast =>
    cases hrest with
    | keeps hpending' hlast' => exact .parks hnone (hpending'.trans hparked) (hlast'.trans hlast)
    | parks hnone' => cases hnone'.symm.trans hparked

theorem parkFirst (state : SearchState) (rnti : Rnti) (calls : List DecoderCall) :
    state.UplinkStep (state.parkFirst rnti calls) := by
  rw [SearchState.parkFirst]
  split
  next grant hnone _ => exact .parks hnone rfl rfl
  next => exact refl state

theorem note (state : SearchState) (hformat : format ≠ .format0) (location : DciLocation) :
    state.UplinkStep (state.note format location) := by
  rw [SearchState.note, if_neg hformat]
  exact .keeps rfl rfl

end SearchState.UplinkStep

/-- However a search for downlink messages ends, it makes such a step. -/
theorem TrialSearch.uplinkStep {state after : SearchState} {all calls : List DecoderCall}
    {answer : Except ReceiveError (Option DciMessage)}
    (h : TrialSearch rnti format state all calls answer after) (hformat : format ≠ .format0) :
    state.UplinkStep after := by
  induction h with
  | exhausted => exact .refl _
  | found rest hfound => exact .note _ hformat _
  | failed rest hfailed => exact .refl _
  | missed hmiss _ ih => exact (SearchState.UplinkStep.parkFirst _ rnti _).trans ih

theorem uplinkStep_scanPasses {passes : List (DciFormat × List DciLocation)}
    (hpasses : ∀ pass ∈ passes, pass.1 ≠ .format0) (state : SearchState) (s : σ) :
    state.UplinkStep (stateAfter (scanPasses decoder rnti passes (state, s))).1 := by
  induction passes generalizing state s with
  | nil => exact .refl state
  | cons pass rest ih =>
    obtain ⟨format, locations⟩ := pass
    obtain ⟨hformat, hrest⟩ := List.forall_mem_cons.mp hpasses
    have hfirst := (trialSearch_scan decoder rnti format locations state s).uplinkStep hformat
    rw [scanPasses]
    cases hscan : scan decoder format rnti locations (state, s) with
    | error error after =>
      rw [hscan] at hfirst
      exact hfirst
    | ok found after =>
      obtain ⟨state', s'⟩ := after
      rw [hscan] at hfirst
      cases found with
      | some message => exact hfirst
      | none => exact hfirst.trans (ih hrest state' s')

theorem uplinkStep_findDownlink (lookup : DciSearch) (mode : TransmissionMode) (cfi subframe : Nat)
    (s : σ) :
    lookup.state.UplinkStep (stateAfter
      (DciSearch.findDownlink decoder mode cfi subframe rnti (lookup, s))).1.state := by
  simp only [DciSearch.findDownlink]
  cases DciSearch.check cfi subframe rnti with
  | error fault => exact .refl _
  | ok checked =>
    dsimp only
    cases hpasses : lookup.downlinkPasses? mode cfi subframe rnti with
    | none => exact .refl _
    | some passes =>
      dsimp only
      rw [stateAfter_onState]
      exact uplinkStep_scanPasses (format_ne_of_downlinkPasses? hpasses) lookup.state s

/-! ## One event -/

/-- The place where an uplink lookup found a message by a search. -/
def LookupEvent.searched? (event : LookupEvent σ) (record : LookupRecord) : Option DciLocation :=
  match event, record.answer with
  | .uplink .., .ok (some _) => record.calls.getLast?.map (·.location)
  | _, _ => none

/-- An uplink lookup answers with no message, or hands out the parked grant of its terminal, and in
both cases leaves the place at hand as it was; or its last call finds a message, and the place of
that is at hand. -/
theorem perform_uplink_cases {search after : DciSearch} {s : σ} {cfi subframe : Nat}
    {record : LookupRecord}
    (h : search.perform (.uplink decoder s cfi subframe rnti) = (record, after)) :
    ((∀ message, record.answer ≠ .ok (some message)) ∧
      after.state.lastUplink = search.state.lastUplink) ∨
    (∃ grant, search.state.pending? = some grant ∧ grant.rnti = rnti ∧
      record = ⟨[], .ok (some grant.message)⟩ ∧
      after.state.lastUplink = search.state.lastUplink) ∨
    ∃ call message, record.answer = .ok (some message) ∧ record.calls.getLast? = some call ∧
      call.found? rnti = some message ∧ after.state.lastUplink = call.location := by
  obtain ⟨rfl, rfl⟩ := Prod.mk.inj h
  rcases findUplink_cases search cfi subframe rnti with
    ⟨error, hfail⟩ | ⟨grant, hparked, howner, -, hrun⟩ | ⟨own, hrun⟩
  · rw [hfail, hfail]
    refine .inl ⟨fun message hfound => ?_, rfl⟩
    cases hfound
  · rw [hrun, hrun]
    exact .inr (.inl ⟨grant, hparked, howner, rfl, rfl⟩)
  · rw [hrun, hrun, notedCalls_onState, stateAfter_onState, answerOf_onState]
    have hsearch := search_scan decoder rnti .format0 own search.state s
    rcases hsearch.ends with ⟨hanswer, -, -, hafter⟩ | ⟨call, message, hends⟩ |
      ⟨call, cause, hanswer, -, -, hafter⟩
    · refine .inl ⟨fun message hfound => ?_, hafter⟩
      cases hanswer.symm.trans hfound
    · exact .inr (.inr ⟨call, message, hends⟩)
    · refine .inl ⟨fun message hfound => ?_, hafter⟩
      cases hanswer.symm.trans hfound

namespace DciSearch

variable {search : DciSearch} {grant : PendingUplink}

/-- While a grant is parked, the place at hand is changed by uplink lookups that find a message by a
search, and by nothing else. -/
theorem lastUplink_perform (hparked : search.state.pending? = some grant)
    (event : LookupEvent σ) :
    (search.perform event).2.state.lastUplink =
      (event.searched? (search.perform event).1).getD search.state.lastUplink := by
  cases event with
  | downlink decoder s mode cfi subframe rnti =>
    show (search.perform (.downlink decoder s mode cfi subframe rnti)).2.state.lastUplink =
      search.state.lastUplink
    cases uplinkStep_findDownlink search mode cfi subframe s with
    | keeps _ hlast => exact hlast
    | parks hnone => cases hnone.symm.trans hparked
  | uplink decoder s cfi subframe rnti =>
    cases hperform : search.perform (.uplink decoder s cfi subframe rnti) with
    | mk record after =>
      rcases perform_uplink_cases hperform with ⟨hanswer, hlast⟩ |
        ⟨waiting, -, -, rfl, hlast⟩ | ⟨call, message, hanswer, hcall, -, hlast⟩
      · have hnone : (LookupEvent.uplink decoder s cfi subframe rnti).searched? record = none := by
          unfold LookupEvent.searched?
          split
          next message _ hmessage => exact absurd hmessage (hanswer message)
          next => rfl
        rw [hnone]
        exact hlast
      · exact hlast
      · simp only [LookupEvent.searched?, hanswer, hcall]
        exact hlast
  | setRnti rnti => rfl
  | clearPending => rfl

/-- A grant is parked together with its place. -/
theorem lastUplink_of_parked {event : LookupEvent σ} (hnone : search.state.pending? = none)
    (hparked : (search.perform event).2.state.pending? = some grant) :
    (search.perform event).2.state.lastUplink = grant.location := by
  rcases search.perform_cases event with
    ⟨decoder, s, mode, cfi, subframe, rnti, rfl⟩ | ⟨-, hkeeps⟩ | ⟨other, hother, -⟩ | rfl
  · cases uplinkStep_findDownlink search mode cfi subframe s with
    | keeps hpending => cases (hpending.trans hnone).symm.trans hparked
    | parks _ hgrant hlast =>
      obtain rfl := Option.some.inj (hgrant.symm.trans hparked)
      exact hlast
  · cases (hkeeps.trans hnone).symm.trans hparked
  · cases hnone.symm.trans hother
  · cases hparked

/-- No event replaces a parked grant by another one. -/
theorem eq_of_parked {event : LookupEvent σ} {other : PendingUplink}
    (hparked : search.state.pending? = some grant)
    (hafter : (search.perform event).2.state.pending? = some other) : other = grant := by
  by_cases hreleases : event.Releases grant.rnti
  · rcases search.perform_cases event with
      ⟨decoder, s, mode, cfi, subframe, rnti, rfl⟩ | ⟨-, hkeeps⟩ | ⟨-, -, -, -, hnone⟩ | rfl
    · exact absurd hreleases id
    · exact Option.some.inj (hafter.symm.trans (hkeeps.trans hparked))
    · cases hnone.symm.trans hafter
    · cases hafter
  · have hstays := pending_perform_of_not_releases hparked hreleases
    exact Option.some.inj (hafter.symm.trans hstays)

theorem performAll_concat (start : DciSearch) (past : List (LookupEvent σ))
    (event : LookupEvent σ) :
    start.performAll (past ++ [event]) = ((start.performAll past).perform event).2 := by
  rw [performAll, List.foldl_append]
  rfl

end DciSearch

/-! ## While a grant waits -/

/-- A grant was parked by one of some events, and no later one of them has released it. Meanwhile
uplink lookups have found messages by searches, at these places. -/
inductive PendingUplink.HasWaited (start : DciSearch) (grant : PendingUplink) :
    List (LookupEvent σ) → List DciLocation → Prop where
  | parked {past : List (LookupEvent σ)} {event : LookupEvent σ}
      (hnone : (start.performAll past).state.pending? = none)
      (hparked : (start.performAll (past ++ [event])).state.pending? = some grant) :
      HasWaited start grant (past ++ [event]) []
  | waited {past : List (LookupEvent σ)} {event : LookupEvent σ} {found : List DciLocation}
      (h : HasWaited start grant past found)
      (hparked : (start.performAll (past ++ [event])).state.pending? = some grant) :
      HasWaited start grant (past ++ [event])
        (found ++ (event.searched? ((start.performAll past).perform event).1).toList)

namespace PendingUplink.HasWaited

variable {start : DciSearch} {grant : PendingUplink} {events : List (LookupEvent σ)}
  {found : List DciLocation}

theorem pending (h : grant.HasWaited start events found) :
    (start.performAll events).state.pending? = some grant := by
  cases h with
  | parked _ hparked => exact hparked
  | waited _ hparked => exact hparked

/-- The place at hand is the last one found while the grant waited, or else that of the grant. -/
theorem lastUplink (h : grant.HasWaited start events found) :
    (start.performAll events).state.lastUplink = found.getLast?.getD grant.location := by
  induction h with
  | parked hnone hparked =>
    rw [DciSearch.performAll_concat] at hparked ⊢
    exact DciSearch.lastUplink_of_parked hnone hparked
  | @waited past event found h hparked ih =>
    rw [DciSearch.performAll_concat, DciSearch.lastUplink_perform h.pending, ih]
    cases event.searched? ((start.performAll past).perform event).1 with
    | none => simp
    | some place => simp

end PendingUplink.HasWaited

/-- Whatever is parked was parked by one of the events, and has waited since. -/
theorem exists_hasWaited {start : DciSearch} {grant : PendingUplink}
    (past events : List (LookupEvent σ))
    (hpast : ∀ other, (start.performAll past).state.pending? = some other →
      ∃ found, other.HasWaited start past found)
    (hparked : (start.performAll (past ++ events)).state.pending? = some grant) :
    ∃ found, grant.HasWaited start (past ++ events) found := by
  induction events generalizing past with
  | nil =>
    rw [List.append_nil] at hparked ⊢
    exact hpast grant hparked
  | cons event rest ih =>
    rw [List.append_cons] at hparked ⊢
    refine ih (past ++ [event]) (fun other hother => ?_) hparked
    cases hbefore : (start.performAll past).state.pending? with
    | none => exact ⟨[], .parked hbefore hother⟩
    | some waiting =>
      obtain ⟨found, hwaited⟩ := hpast waiting hbefore
      have hafter := hother
      rw [DciSearch.performAll_concat] at hafter
      obtain rfl := DciSearch.eq_of_parked hbefore hafter
      exact ⟨_, .waited hwaited hother⟩

/--
**The place at hand when an uplink lookup has answered with a message.**

If the message was found by a search, it is the place of the call that found it. If it is that of a
parked grant, the lookup has noted nothing: the place at hand is the last one where an uplink lookup
found a message by a search while the grant waited, and the place of the grant if there was none.
-/
theorem place_of_uplink (cell : CellConfig) (events : List (LookupEvent σ))
    (decoder : DciDecoder σ) (s : σ) (cfi subframe : Nat) (rnti : Rnti) (message : DciMessage) :
    let start := DciSearch.ofCell cell
    let search := start.performAll events
    let (record, after) := search.perform (.uplink decoder s cfi subframe rnti)
    record.answer = .ok (some message) →
      (∃ call, record.calls.getLast? = some call ∧ call.found? rnti = some message ∧
        after.state.lastUplink = call.location) ∨
      (record.calls = [] ∧ ∃ (grant : PendingUplink) (found : List DciLocation),
        grant.HasWaited start events found ∧ grant.Genuine (start.seen events) ∧
        grant.rnti = rnti ∧ grant.message = message ∧
        after.state.lastUplink = found.getLast?.getD grant.location) := by
  intro start search
  cases hperform : search.perform (.uplink decoder s cfi subframe rnti) with
  | mk record after =>
    intro hanswer
    rcases perform_uplink_cases hperform with ⟨hnone, -⟩ | ⟨grant, hparked, howner, rfl, hlast⟩ |
      ⟨call, found, hfound, hcall, hmessage, hlast⟩
    · exact absurd hanswer (hnone message)
    · cases hanswer
      have hgenuine : grant.Genuine (start.seen events) :=
        DciSearch.genuine_performAll [] events (by simp [start, DciSearch.ofCell]) hparked
      obtain ⟨found, hwaited⟩ :=
        exists_hasWaited [] events (by simp [start, DciSearch.ofCell, DciSearch.performAll]) hparked
      exact .inr ⟨rfl, grant, found, hwaited, hgenuine, howner, rfl, hlast.trans hwaited.lastUplink⟩
    · cases hfound.symm.trans hanswer
      exact .inl ⟨call, hcall, hmessage, hlast⟩

/-- A grant of one terminal is parked, and then one of another terminal is found by a search. -/
def overtaken : List (LookupEvent (List DecodedDci)) :=
  [.downlink scripted [⟨uplinkGrant 1, 0x46⟩] .tm1 3 0 ⟨0x46⟩,
    .uplink scripted [⟨uplinkGrant 0, 0⟩, ⟨uplinkGrant 0, 0⟩, ⟨uplinkGrant 2, 0x47⟩] 3 0 ⟨0x47⟩]

/-- The grant is handed out with the place of the other message at hand. -/
theorem place_of_uplink_overtaken :
    let start := DciSearch.ofCell narrowCell
    let search := start.performAll overtaken
    let (record, after) := search.perform (.uplink scripted [] 3 0 ⟨0x46⟩)
    record.answer = .ok (some (uplinkGrant 1)) ∧ after.state.lastUplink = ⟨0, 1⟩ ∧
      ∃ (grant : PendingUplink) (found : List DciLocation),
        grant.HasWaited start overtaken found ∧ grant.location = ⟨0, 2⟩ ∧
        found.getLast? = some ⟨0, 1⟩ := by
  have hanswer : (((DciSearch.ofCell narrowCell).performAll overtaken).perform
      (.uplink scripted [] 3 0 ⟨0x46⟩)).1.answer = .ok (some (uplinkGrant 1)) := by decide +kernel
  have hat : (((DciSearch.ofCell narrowCell).performAll overtaken).perform
      (.uplink scripted [] 3 0 ⟨0x46⟩)).2.state.lastUplink = ⟨0, 1⟩ := by decide +kernel
  have hparked : ((DciSearch.ofCell narrowCell).performAll overtaken).state.pending? =
      some firstFound := by decide +kernel
  refine ⟨hanswer, hat, ?_⟩
  rcases place_of_uplink narrowCell overtaken scripted [] 3 0 ⟨0x46⟩ (uplinkGrant 1) hanswer with
    ⟨call, hcall, -⟩ | ⟨-, grant, found, hwaited, -, -, -, hlast⟩
  · cases hcall
  · obtain rfl := Option.some.inj (hwaited.pending.symm.trans hparked)
    refine ⟨firstFound, found, hwaited, rfl, ?_⟩
    cases hfound : found.getLast? with
    | none =>
      rw [hfound] at hlast
      exact absurd (hat.symm.trans hlast) (by decide)
    | some place =>
      rw [hfound] at hlast
      exact congrArg some (hlast.symm.trans hat)

/-- The place where the message that an uplink lookup answers with was decoded: that of its last
call, or of the parked grant if it made none. -/
def DciSearch.origin? (search : DciSearch) (record : LookupRecord) : Option DciLocation :=
  (record.calls.getLast?.map (·.location)).or (search.state.pending?.map (·.location))

/-- **The place at hand is not always that of the message.** -/
theorem not_always_origin :
    ¬ ∀ (cell : CellConfig) (events : List (LookupEvent (List DecodedDci)))
      (decoder : DciDecoder (List DecodedDci)) (s : List DecodedDci) (cfi subframe : Nat)
      (rnti : Rnti) (message : DciMessage) (place : DciLocation),
      let search := (DciSearch.ofCell cell).performAll events
      let (record, after) := search.perform (.uplink decoder s cfi subframe rnti)
      record.answer = .ok (some message) → search.origin? record = some place →
        after.state.lastUplink = place := by
  intro h
  have hplace : (⟨0, 1⟩ : DciLocation) = ⟨0, 2⟩ :=
    h narrowCell overtaken scripted [] 3 0 ⟨0x46⟩ (uplinkGrant 1) ⟨0, 2⟩ rfl rfl
  exact absurd hplace (by decide)

end LteReceiver
