import LteReceiver.Proofs.Control.Recording

/-!
# Lookups in a row

What a single lookup can do (`findDownlink_cases`, `findUplink_cases`), and sequences of lookups
with all that is seen of them: the answers, and the calls to the decoders (`DciSearch.perform`).
-/

namespace LteReceiver

variable {σ : Type} {rnti : Rnti}

/-! ## One lookup -/

/-- The numbers of control symbols and the subframes that the tables of search spaces cover. -/
def InTables (cfi subframe : Nat) : Prop :=
  1 ≤ cfi ∧ cfi ≤ maxCfi ∧ subframe < subframesPerFrame

theorem check_eq_ok_iff {cfi subframe : Nat} :
    DciSearch.check cfi subframe rnti = .ok () ↔
      InTables cfi subframe ∧ rnti.isAssigned = true := by
  unfold DciSearch.check InTables
  split
  · simp; omega
  · split
    · simp; omega
    · split
      · simp [*]; omega
      · simp [*]

/-- A downlink lookup fails before any call, or it is a row of searches for an assigned identity. -/
theorem findDownlink_cases (lookup : DciSearch) (mode : TransmissionMode) (cfi subframe : Nat)
    (rnti : Rnti) :
    (∃ error, ∀ (τ : Type) (decoder : DciDecoder τ) (s : τ),
      DciSearch.findDownlink decoder mode cfi subframe rnti (lookup, s) =
        .error error (lookup, s)) ∨
    rnti.isAssigned = true ∧ ∃ passes, ∀ (τ : Type) (decoder : DciDecoder τ) (s : τ),
      DciSearch.findDownlink decoder mode cfi subframe rnti (lookup, s) =
        DciSearch.onState (scanPasses decoder rnti passes) (lookup, s) := by
  simp only [DciSearch.findDownlink]
  cases hc : DciSearch.check cfi subframe rnti with
  | error fault => exact .inl ⟨_, fun _ _ _ => rfl⟩
  | ok checked =>
    dsimp only
    cases lookup.downlinkPasses? mode cfi subframe rnti with
    | none => exact .inl ⟨_, fun _ _ _ => rfl⟩
    | some passes => exact .inr ⟨(check_eq_ok_iff.mp hc).2, passes, fun _ _ _ => rfl⟩

/-- An uplink lookup fails before any call, or hands out the parked grant of its terminal, or is a
search for format 0 because no grant of its terminal is parked. -/
theorem findUplink_cases (lookup : DciSearch) (cfi subframe : Nat) (rnti : Rnti) :
    (∃ error, ∀ (τ : Type) (decoder : DciDecoder τ) (s : τ),
      DciSearch.findUplink decoder cfi subframe rnti (lookup, s) = .error error (lookup, s)) ∨
    (∃ parked, lookup.state.pending? = some parked ∧ parked.rnti = rnti ∧ InTables cfi subframe ∧
      ∀ (τ : Type) (decoder : DciDecoder τ) (s : τ),
        DciSearch.findUplink decoder cfi subframe rnti (lookup, s) =
          .ok (some parked.message) (lookup.clearPending, s)) ∨
    ∃ own, ∀ (τ : Type) (decoder : DciDecoder τ) (s : τ),
      DciSearch.findUplink decoder cfi subframe rnti (lookup, s) =
        DciSearch.onState (scan decoder .format0 rnti own) (lookup, s) := by
  simp only [DciSearch.findUplink]
  cases hc : DciSearch.check cfi subframe rnti with
  | error fault => exact .inl ⟨_, fun _ _ _ => rfl⟩
  | ok checked =>
    dsimp only
    cases hp : lookup.state.pending?.filter (·.rnti = rnti) with
    | some parked =>
      obtain ⟨hparked, hrnti⟩ := Option.filter_eq_some_iff.mp hp
      exact .inr (.inl ⟨parked, hparked, of_decide_eq_true hrnti, (check_eq_ok_iff.mp hc).1,
        fun _ _ _ => rfl⟩)
    | none =>
      dsimp only
      cases lookup.space.ue? rnti cfi subframe with
      | none => exact .inl ⟨_, fun _ _ _ => rfl⟩
      | some own => exact .inr (.inr ⟨own, fun _ _ _ => rfl⟩)

/-- The parked grant of a terminal is handed out at once. -/
theorem findUplink_of_parked {lookup : DciSearch} {cfi subframe : Nat} {parked : PendingUplink}
    (htables : InTables cfi subframe) (hassigned : parked.rnti.isAssigned = true)
    (hparked : lookup.state.pending? = some parked) {τ : Type} (decoder : DciDecoder τ) (s : τ) :
    DciSearch.findUplink decoder cfi subframe parked.rnti (lookup, s) =
      .ok (some parked.message) (lookup.clearPending, s) := by
  have hfilter : lookup.state.pending?.filter (·.rnti = parked.rnti) = some parked := by
    simp [hparked]
  simp only [DciSearch.findUplink, check_eq_ok_iff.mpr ⟨htables, hassigned⟩, hfilter]

/-! ## Lookups in a row -/

/-- What can be asked of the lookups of a cell. Every lookup has a decoder of its own, in some state
of it. -/
inductive LookupEvent (σ : Type) where
  | downlink (decoder : DciDecoder σ) (start : σ) (mode : TransmissionMode) (cfi subframe : Nat)
      (rnti : Rnti)
  | uplink (decoder : DciDecoder σ) (start : σ) (cfi subframe : Nat) (rnti : Rnti)
  | setRnti (rnti : Rnti)
  | clearPending

/-- What is seen of an event: the calls to the decoder, and the answer. -/
structure LookupRecord where
  calls : List DecoderCall
  answer : Except ReceiveError (Option DciMessage)

namespace DciSearch

/-- What is seen of an event, and the lookups after it. -/
def perform (search : DciSearch) : LookupEvent σ → LookupRecord × DciSearch
  | .downlink decoder start mode cfi subframe rnti =>
    let run := findDownlink decoder mode cfi subframe rnti (search, start)
    let noted := findDownlink decoder.recorded mode cfi subframe rnti (search, start, [])
    (⟨notedCalls noted, answerOf run⟩, (stateAfter run).1)
  | .uplink decoder start cfi subframe rnti =>
    let run := findUplink decoder cfi subframe rnti (search, start)
    let noted := findUplink decoder.recorded cfi subframe rnti (search, start, [])
    (⟨notedCalls noted, answerOf run⟩, (stateAfter run).1)
  | .setRnti rnti => (⟨[], .ok none⟩, search.setRnti rnti)
  | .clearPending => (⟨[], .ok none⟩, search.clearPending)

/-- The lookups after events, the first one first. -/
def performAll (search : DciSearch) (events : List (LookupEvent σ)) : DciSearch :=
  events.foldl (fun search event => (search.perform event).2) search

theorem performAll_cons (search : DciSearch) (event : LookupEvent σ) (rest : List (LookupEvent σ)) :
    search.performAll (event :: rest) = (search.perform event).2.performAll rest :=
  rfl

/-- The events, each with what is seen of it. -/
def seen (search : DciSearch) : List (LookupEvent σ) → List (LookupEvent σ × LookupRecord)
  | [] => []
  | event :: rest => (event, (search.perform event).1) :: (search.perform event).2.seen rest

end DciSearch

end LteReceiver
