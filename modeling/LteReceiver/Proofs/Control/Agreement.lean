import LteReceiver.Control.BlindSearch
import LteReceiver.Proofs.Agreement
import LteReceiver.Proofs.Control.Tables

/-!
# Lookups with decoders that agree

What a lookup does depends on the answers of its decoder and on nothing else of it. So lookups with
two decoders that agree along a relation of their states agree too.

They need not start from the same lookup state either. It is enough that their tables give out the
same lists (`SearchSpaceTable.SameLists`) and that a search cannot tell their states apart
(`Indistinct`): it looks at the parked grant only, and never at the places it remembers
(`indistinct_pending`).
-/

namespace LteReceiver

variable {σ τ : Type} {related : σ → τ → Prop} {first : DciDecoder σ} {second : DciDecoder τ}

/-- Two decoders answer alike along a relation of their states. -/
def DecodersAgree (related : σ → τ → Prop) (first : DciDecoder σ) (second : DciDecoder τ) : Prop :=
  ∀ location format,
    Agree related (first.decodeAt location format) (second.decodeAt location format)

/-! ## States that a search cannot tell apart -/

/-- A relation of search states that searches and uplink lookups see no difference in. -/
structure Indistinct (alike : SearchState → SearchState → Prop) : Prop where
  /-- A decoded place means the same to both, and leaves related states. -/
  consider : ∀ {state other : SearchState}, alike state other →
    ∀ rnti format location decoded,
      (state.consider rnti format location decoded).1 =
          (other.consider rnti format location decoded).1 ∧
        alike (state.consider rnti format location decoded).2
          (other.consider rnti format location decoded).2
  pending? : ∀ {state other : SearchState}, alike state other → state.pending? = other.pending?
  clear : ∀ {state other : SearchState}, alike state other →
    alike { state with pending? := none } { other with pending? := none }

theorem indistinct_eq : Indistinct Eq where
  consider := fun h _ _ _ _ => h ▸ ⟨rfl, rfl⟩
  pending? := fun h => h ▸ rfl
  clear := fun h => h ▸ rfl

/-- A search does not look at the places that earlier ones remember. -/
theorem indistinct_pending : Indistinct fun state other => state.pending? = other.pending? where
  consider := by
    intro state other h rnti format location decoded
    unfold SearchState.consider
    split
    · exact ⟨rfl, h⟩
    · split
      · refine ⟨rfl, ?_⟩
        unfold SearchState.park
        rw [← h]
        cases hs : state.pending? with
        | some parked => exact hs.trans (hs.symm.trans h)
        | none => rfl
      · split
        · refine ⟨rfl, ?_⟩
          unfold SearchState.note
          split <;> exact h
        · exact ⟨rfl, h⟩
  pending? := id
  clear := fun _ => rfl

/-! ## Searches -/

/-- Related states of something that is searched, and related states of its decoder. -/
def Alongside {κ : Type} (alike : κ → κ → Prop) (related : σ → τ → Prop) (s : κ × σ) (t : κ × τ) :
    Prop :=
  alike s.1 t.1 ∧ related s.2 t.2

section Searches

variable {alike : SearchState → SearchState → Prop} {rnti : Rnti}

theorem agree_scan (halike : Indistinct alike) (h : DecodersAgree related first second)
    (format : DciFormat) (rnti : Rnti) (locations : List DciLocation) :
    Agree (Alongside alike related) (scan first format rnti locations)
      (scan second format rnti locations) := by
  induction locations with
  | nil => exact fun _ _ hst => ⟨rfl, hst⟩
  | cons location rest ih =>
    rintro ⟨state, s⟩ ⟨other, t⟩ ⟨hstate, hst⟩
    simp only [scan]
    rcases (h location format).ends hst with
      ⟨e, s', t', hfirst, hsecond, hafter⟩ | ⟨decoded, s', t', hfirst, hsecond, hafter⟩
    · rw [hfirst, hsecond]
      exact ⟨rfl, hstate, hafter⟩
    · rw [hfirst, hsecond]
      dsimp only
      obtain ⟨hfound, hnext⟩ := halike.consider hstate rnti format location decoded
      cases hconsider : state.consider rnti format location decoded with
      | mk found state' =>
        cases hother : other.consider rnti format location decoded with
        | mk found' other' =>
          rw [hconsider, hother] at hfound hnext
          obtain rfl : found = found' := hfound
          cases found with
          | some message => exact ⟨rfl, hnext, hafter⟩
          | none => exact ih (state', s') (other', t') ⟨hnext, hafter⟩

theorem agree_scanPasses (halike : Indistinct alike) (h : DecodersAgree related first second)
    (rnti : Rnti) (passes : List (DciFormat × List DciLocation)) :
    Agree (Alongside alike related) (scanPasses first rnti passes)
      (scanPasses second rnti passes) := by
  induction passes with
  | nil => exact fun _ _ hst => ⟨rfl, hst⟩
  | cons pass rest ih =>
    obtain ⟨format, locations⟩ := pass
    rintro ⟨state, s⟩ ⟨state', t⟩ hst
    simp only [scanPasses]
    rcases (agree_scan halike h format rnti locations).ends hst with
      ⟨e, after, after', hfirst, hsecond, hafter⟩ | ⟨found, after, after', hfirst, hsecond, hafter⟩
    · rw [hfirst, hsecond]
      exact ⟨rfl, hafter⟩
    · rw [hfirst, hsecond]
      cases found with
      | some message => exact ⟨rfl, hafter⟩
      | none => exact ih after after' hafter

end Searches

/-! ## Lookups -/

/-- Two lookups have related tables and states. -/
structure LookupsAlongside (tables : SearchSpaceTable → SearchSpaceTable → Prop)
    (alike : SearchState → SearchState → Prop) (lookup other : DciSearch) : Prop where
  space : tables lookup.space other.space
  state : alike lookup.state other.state

section Lookups

variable {tables : SearchSpaceTable → SearchSpaceTable → Prop}
  {alike : SearchState → SearchState → Prop}

theorem agree_onState
    {search : EStateM ReceiveError (SearchState × σ) (Option DciMessage)}
    {other : EStateM ReceiveError (SearchState × τ) (Option DciMessage)}
    (h : Agree (Alongside alike related) search other) :
    Agree (Alongside (LookupsAlongside tables alike) related) (DciSearch.onState search)
      (DciSearch.onState other) := by
  rintro ⟨lookup, s⟩ ⟨lookup', t⟩ ⟨hlookup, hst⟩
  simp only [DciSearch.onState]
  rcases h.ends (s := (lookup.state, s)) (t := (lookup'.state, t)) ⟨hlookup.state, hst⟩ with
    ⟨e, ⟨state, s'⟩, ⟨state', t'⟩, hfirst, hsecond, hstate, hafter⟩ |
    ⟨found, ⟨state, s'⟩, ⟨state', t'⟩, hfirst, hsecond, hstate, hafter⟩
  · rw [hfirst, hsecond]
    exact ⟨rfl, ⟨hlookup.space, hstate⟩, hafter⟩
  · rw [hfirst, hsecond]
    exact ⟨rfl, ⟨hlookup.space, hstate⟩, hafter⟩

/-- **Downlink lookups that cannot be told apart, with decoders that agree, do the same.** -/
theorem agree_findDownlink_alongside
    (htables : ∀ table other, tables table other → table.SameLists other)
    (halike : Indistinct alike) (h : DecodersAgree related first second) (mode : TransmissionMode)
    (cfi subframe : Nat) (rnti : Rnti) :
    Agree (Alongside (LookupsAlongside tables alike) related)
      (DciSearch.findDownlink first mode cfi subframe rnti)
      (DciSearch.findDownlink second mode cfi subframe rnti) := by
  rintro ⟨lookup, s⟩ ⟨other, t⟩ ⟨hlookup, hst⟩
  have hlists := htables _ _ hlookup.space
  have hpasses : lookup.downlinkPasses? mode cfi subframe rnti =
      other.downlinkPasses? mode cfi subframe rnti := by
    simp only [DciSearch.downlinkPasses?, hlists.ue?, hlists.common?]
  simp only [DciSearch.findDownlink, hpasses]
  cases DciSearch.check cfi subframe rnti with
  | error fault => exact ⟨rfl, hlookup, hst⟩
  | ok =>
    cases other.downlinkPasses? mode cfi subframe rnti with
    | none => exact ⟨rfl, hlookup, hst⟩
    | some passes => exact agree_onState (agree_scanPasses halike h rnti passes) _ _ ⟨hlookup, hst⟩

/-- **So do uplink lookups.** They hand out the same parked grant, or none of them has one. -/
theorem agree_findUplink_alongside
    (htables : ∀ table other, tables table other → table.SameLists other)
    (halike : Indistinct alike) (h : DecodersAgree related first second) (cfi subframe : Nat)
    (rnti : Rnti) :
    Agree (Alongside (LookupsAlongside tables alike) related)
      (DciSearch.findUplink first cfi subframe rnti)
      (DciSearch.findUplink second cfi subframe rnti) := by
  rintro ⟨lookup, s⟩ ⟨other, t⟩ ⟨hlookup, hst⟩
  have hown : lookup.space.ue? rnti cfi subframe = other.space.ue? rnti cfi subframe :=
    (htables _ _ hlookup.space).ue? rnti cfi subframe
  have hpending : lookup.state.pending? = other.state.pending? := halike.pending? hlookup.state
  simp only [DciSearch.findUplink, hown, hpending]
  cases DciSearch.check cfi subframe rnti with
  | error fault => exact ⟨rfl, hlookup, hst⟩
  | ok =>
    cases other.state.pending?.filter (·.rnti = rnti) with
    | some pending => exact ⟨rfl, ⟨hlookup.space, halike.clear hlookup.state⟩, hst⟩
    | none =>
      cases other.space.ue? rnti cfi subframe with
      | none => exact ⟨rfl, hlookup, hst⟩
      | some own => exact agree_onState (agree_scan halike h .format0 rnti own) _ _ ⟨hlookup, hst⟩

/-! ## Two cases -/

/-- In tables of the same cell no difference is seen. -/
theorem SearchSpaceTable.sameLists_of_bothServe {cell : CellConfig} (table other : SearchSpaceTable)
    (h : BothServe cell table other) : table.SameLists other :=
  h.left.sameLists h.right

/-- The same state of something that is searched, and related states of its decoder. -/
def Beside {κ : Type} (related : σ → τ → Prop) (s : κ × σ) (t : κ × τ) : Prop :=
  s.1 = t.1 ∧ related s.2 t.2

/-- Downlink lookups in the same state, with decoders that agree, do the same. -/
theorem agree_findDownlink (h : DecodersAgree related first second) (mode : TransmissionMode)
    (cfi subframe : Nat) (rnti : Rnti) :
    Agree (Beside related) (DciSearch.findDownlink first mode cfi subframe rnti)
      (DciSearch.findDownlink second mode cfi subframe rnti) := by
  rintro ⟨lookup, s⟩ ⟨_, t⟩ ⟨rfl, hst⟩
  have htables : ∀ table other : SearchSpaceTable, table = other → table.SameLists other :=
    fun _ _ hsame => hsame ▸ ⟨fun _ _ _ => rfl, fun _ => rfl⟩
  obtain ⟨hanswer, hlookup, hafter⟩ :=
    agree_findDownlink_alongside htables indistinct_eq h mode cfi subframe rnti
      (lookup, s) (lookup, t) ⟨⟨rfl, rfl⟩, hst⟩
  exact ⟨hanswer, (DciSearch.mk.injEq ..).mpr ⟨hlookup.space, hlookup.state⟩, hafter⟩

end Lookups

end LteReceiver
