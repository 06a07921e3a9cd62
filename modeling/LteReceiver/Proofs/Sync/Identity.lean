import LteReceiver.Proofs.Sync.Runs

/-!
# Where the identity of a cell comes from

The two parts of an identity are set at different times. A search that tries to read a secondary
symbol sets the group or clears it (`Tries`, `Reads`), and every other event keeps it; the sector is
the one that was chosen last. So the identity at hand is that of the last search that tried to read
a symbol, as long as no other sector was chosen since. If one was, the group of one cell is put
together with the sector of another (`cellId?_after`).
-/

namespace LteReceiver

/-- The sector that an event chooses, if it does and there is such a sector. -/
def SyncEvent.sector? : SyncEvent → Option (Fin 3)
  | .setSector sector => if h : sector < 3 then some ⟨sector, h⟩ else none
  | _ => none

namespace Synchronizer

/-! ## Reading symbols -/

/-- A search tries to read a secondary symbol. -/
def Tries (s : Synchronizer) : SyncEvent → Prop
  | .find samples offset instruments => ∃ outcome next,
      find samples offset instruments s = .ok outcome next ∧
      outcome.secondaryStep ≠ .disabled ∧ outcome.secondaryStep ≠ .notAttempted
  | _ => False

/-- A search completes the reading of a secondary symbol, under a sector and as one of a group. -/
inductive Reads (s : Synchronizer) : SyncEvent → Fin 3 → Nat → Prop
  | find {samples : Array Sample} {offset : Nat} {instruments : Instruments}
      {outcome : SearchOutcome} {next : Synchronizer} {sector : Fin 3} {found : SecondaryMatch}
      {group : Nat} (hfind : find samples offset instruments s = .ok outcome next)
      (hcompleted : outcome.secondaryStep = .completed) (hsector : s.sector? = some sector)
      (hfound : (s.tuned next.cp next.frequencyOffset).reading samples
        (offset + outcome.position) sector instruments = found)
      (hgroup : groupOf? found.first found.second = some group) :
      Reads s (.find samples offset instruments) sector group

variable {s start : Synchronizer}

theorem Reads.tries {event : SyncEvent} {sector : Fin 3} {group : Nat}
    (h : s.Reads event sector group) : s.Tries event := by
  cases h with
  | find hfind hcompleted =>
    refine ⟨_, _, hfind, ?_, ?_⟩
    · rw [hcompleted]
      decide
    · rw [hcompleted]
      decide

/-- What a search that answers reads is known from its answer and the synchronizer that it leaves. -/
theorem reads_find_iff {samples : Array Sample} {offset : Nat} {instruments : Instruments}
    {outcome : SearchOutcome} {next : Synchronizer} {sector : Fin 3} {group : Nat}
    (hfind : find samples offset instruments s = .ok outcome next) :
    s.Reads (.find samples offset instruments) sector group ↔
      outcome.secondaryStep = .completed ∧ s.sector? = some sector ∧
        let found := (s.tuned next.cp next.frequencyOffset).reading samples
          (offset + outcome.position) sector instruments
        groupOf? found.first found.second = some group := by
  constructor
  · intro h
    cases h with
    | find hsame hcompleted hsector hfound hgroup =>
      cases hfind.symm.trans hsame
      subst hfound
      exact ⟨hcompleted, hsector, hgroup⟩
  · rintro ⟨hcompleted, hsector, hgroup⟩
    exact .find hfind hcompleted hsector rfl hgroup

/-- The group after a search that tries to read a symbol is the one that it reads. -/
theorem group?_of_tries (hs : s.Sound) {event : SyncEvent} (h : s.Tries event) (group : Nat) :
    (s.perform event).group? = some group ↔ ∃ sector, s.Reads event sector group := by
  cases event with
  | find samples offset instruments =>
    obtain ⟨outcome, next, hfind, hon, hattempted⟩ := h
    have hcourse := hs.course samples offset instruments
    rw [hfind] at hcourse
    simp only [perform_find_ok hfind, reads_find_iff hfind]
    cases hstep : outcome.secondaryStep with
    | disabled => exact absurd hstep hon
    | notAttempted => exact absurd hstep hattempted
    | failed => simp [hcourse.group?_of_tried (.inl hstep)]
    | insufficientSamples => simp [hcourse.group?_of_tried (.inr hstep)]
    | completed =>
      obtain ⟨sector, read, hsector, hknown, -, hgroup, -⟩ := hcourse.completed hstep
      rw [hknown]
      constructor
      · intro hsame
        cases hsame
        exact ⟨sector, rfl, hsector, hgroup⟩
      · rintro ⟨other, -, hother, hread⟩
        cases hsector.symm.trans hother
        exact hgroup.symm.trans hread
  | _ => cases h

/-- The group is kept by all that does not try to read a symbol. -/
theorem group?_of_not_tries (hs : s.Sound) {event : SyncEvent} (h : ¬ s.Tries event) :
    (s.perform event).group? = s.group? := by
  cases event with
  | setSector sector =>
    rw [perform_setSector]
    split <;> rfl
  | decideCp samples peak instruments =>
    obtain ⟨normal, extended, hdecided⟩ := s.perform_decideCp samples peak instruments
    rw [hdecided]
  | find samples offset instruments =>
    have hcourse := hs.course samples offset instruments
    cases hfind : find samples offset instruments s with
    | error e left =>
      rw [hfind] at hcourse
      rw [perform_find_error hfind, hcourse.left_eq]
    | ok outcome next =>
      rw [hfind] at hcourse
      rw [perform_find_ok hfind]
      refine hcourse.group?_of_untried ?_
      by_contra htried
      rw [not_or] at htried
      exact h ⟨_, _, hfind, htried⟩
  | _ => rfl

/-- The sector is the one that was chosen last. -/
theorem sector?_perform (hs : s.Sound) (event : SyncEvent) :
    (s.perform event).sector? = event.sector?.or s.sector? := by
  cases event with
  | setSector sector =>
    rw [perform_setSector, SyncEvent.sector?]
    split <;> rfl
  | decideCp samples peak instruments =>
    obtain ⟨normal, extended, hdecided⟩ := s.perform_decideCp samples peak instruments
    rw [hdecided]
    rfl
  | find samples offset instruments =>
    have hcourse := hs.course samples offset instruments
    cases hfind : find samples offset instruments s with
    | error e left =>
      rw [hfind] at hcourse
      rw [perform_find_error hfind, hcourse.left_eq]
      rfl
    | ok outcome next =>
      rw [hfind] at hcourse
      rw [perform_find_ok hfind]
      exact hcourse.sector?_eq
  | _ => rfl

/-! ## Histories -/

/-- No search of a later part of a history tries to read a symbol. -/
def Untried (start : Synchronizer) (earlier : List SyncEvent) : List SyncEvent → Prop
  | [] => True
  | event :: past =>
    ¬ Tries (after start (past ++ earlier)) event ∧ Untried start earlier past

theorem sector?_after_append (hstart : start.Made) (later earlier : List SyncEvent) :
    (after start (later ++ earlier)).sector? =
      (later.findSome? SyncEvent.sector?).or (after start earlier).sector? := by
  induction later with
  | nil => rfl
  | cons event past ih =>
    rw [List.cons_append, after, sector?_perform (sound_after hstart.sound _), ih,
      List.findSome?_cons]
    cases event.sector? <;> rfl

/-- The group at hand is the one that was read by the last search that tried to read a symbol. -/
theorem group?_after (hstart : start.Made) (history : List SyncEvent) (group : Nat) :
    (after start history).group? = some group ↔
      ∃ later event earlier sector, history = later ++ event :: earlier ∧
        Reads (after start earlier) event sector group ∧
        Untried start (event :: earlier) later := by
  induction history with
  | nil =>
    refine iff_of_false (fun h => ?_) ?_
    · rw [after, hstart.spec.2.2] at h
      cases h
    · rintro ⟨later, event, earlier, sector, hsplit, -⟩
      exact absurd hsplit.symm (by simp)
  | cons event past ih =>
    have hs := sound_after hstart.sound past
    by_cases htries : Tries (after start past) event
    · rw [after, group?_of_tries hs htries]
      constructor
      · rintro ⟨sector, hread⟩
        exact ⟨[], event, past, sector, rfl, hread, trivial⟩
      · rintro ⟨later, read, earlier, sector, hsplit, hread, huntried⟩
        cases later with
        | nil =>
          cases hsplit
          exact ⟨sector, hread⟩
        | cons newest later =>
          cases hsplit
          exact absurd htries huntried.1
    · rw [after, group?_of_not_tries hs htries, ih]
      constructor
      · rintro ⟨later, read, earlier, sector, rfl, hread, huntried⟩
        exact ⟨event :: later, read, earlier, sector, rfl, hread, htries, huntried⟩
      · rintro ⟨later, read, earlier, sector, hsplit, hread, huntried⟩
        cases later with
        | nil =>
          cases hsplit
          exact absurd hread.tries htries
        | cons newest later =>
          cases hsplit
          exact ⟨later, read, earlier, sector, rfl, hread, huntried.2⟩

theorem Reads.lt {event : SyncEvent} {sector : Fin 3} {group : Nat}
    (h : s.Reads event sector group) : group < Pci.groupCount := by
  cases h with
  | find hfind hcompleted hsector hfound hgroup => exact (lt_of_groupOf? hgroup).1

/-- Reading a symbol does not change the sector. -/
theorem Reads.sector?_perform {event : SyncEvent} {sector : Fin 3} {group : Nat} (hs : s.Sound)
    (h : s.Reads event sector group) : (s.perform event).sector? = some sector := by
  rw [Synchronizer.sector?_perform hs]
  cases h with
  | find hfind hcompleted hsector => exact hsector

/--
**Where the identity at hand comes from.**

Its group was read by the last search that tried to read a secondary symbol. Its sector is the one
that symbol was read under, unless another sector was chosen after that search: then it is that one,
and the identity need not be that of any cell.
-/
theorem cellId?_after (hstart : start.Made) (history : List SyncEvent) (pci : Pci) :
    (after start history).cellId? = some pci ↔
      ∃ later event earlier sector group, history = later ++ event :: earlier ∧
        Reads (after start earlier) event sector group ∧
        Untried start (event :: earlier) later ∧
        pci = ⟨3 * group + (later.findSome? SyncEvent.sector?).getD sector⟩ := by
  -- the sector now, in terms of that of the search
  have hnow : ∀ {later event earlier sector group},
      Reads (after start earlier) event sector group →
      (after start (later ++ event :: earlier)).sector? =
        some ((later.findSome? SyncEvent.sector?).getD sector) := by
    intro later event earlier sector group hread
    rw [sector?_after_append hstart, after,
      hread.sector?_perform (sound_after hstart.sound earlier)]
    cases later.findSome? SyncEvent.sector? <;> rfl
  rw [cellId?_eq_some_iff]
  constructor
  · rintro ⟨group, now, hgroup, hsector, -, rfl⟩
    obtain ⟨later, event, earlier, sector, rfl, hread, huntried⟩ :=
      (group?_after hstart history group).mp hgroup
    rw [hnow hread] at hsector
    cases hsector
    exact ⟨later, event, earlier, sector, group, rfl, hread, huntried, rfl⟩
  · rintro ⟨later, event, earlier, sector, group, rfl, hread, huntried, rfl⟩
    refine ⟨group, _, ?_, hnow hread, hread.lt, rfl⟩
    exact (group?_after hstart _ group).mpr
      ⟨later, event, earlier, sector, rfl, hread, huntried⟩

/-- A symbol is read under sector 1, and sector 0 is chosen after that. -/
def sectorChanged : List SyncEvent :=
  .setSector 0 :: .find silence 128 foundEverywhere :: listening

theorem cellId?_sectorChanged : ∃ start, start.Made ∧
    (after start sectorChanged).cellId? = some ⟨0⟩ := by
  obtain ⟨start, hsizes, hcell⟩ : ∃ start, ofSizes 64 64 = .ok start ∧
      (after start sectorChanged).cellId? = some ⟨0⟩ := ⟨_, rfl, by decide +kernel⟩
  exact ⟨start, .inl ⟨64, 64, _, hsizes⟩, hcell⟩

theorem cellId?_after_sectorChanged : ∃ start later event earlier sector group,
    start.Made ∧ sectorChanged = later ++ event :: earlier ∧
      Reads (after start earlier) event sector group ∧
      Untried start (event :: earlier) later ∧
      (⟨0⟩ : Pci) = ⟨3 * group + (later.findSome? SyncEvent.sector?).getD sector⟩ := by
  obtain ⟨start, hmade, hcell⟩ := cellId?_sectorChanged
  obtain ⟨later, event, earlier, sector, group, hfacts⟩ :=
    (cellId?_after hmade sectorChanged ⟨0⟩).mp hcell
  exact ⟨start, later, event, earlier, sector, group, hmade, hfacts⟩

/-- **The identity at hand is not always one that was read.** -/
theorem not_always_read : ¬ ∀ (start : Synchronizer) (history : List SyncEvent) (pci : Pci),
    start.Made → (after start history).cellId? = some pci →
    ∃ later event earlier sector, history = later ++ event :: earlier ∧
      Reads (after start earlier) event sector pci.group ∧ sector.val = pci.sector := by
  intro h
  obtain ⟨start, hmade, hcell⟩ := cellId?_sectorChanged
  obtain ⟨later, event, earlier, sector, hsplit, hread, hsector⟩ :=
    h start sectorChanged ⟨0⟩ hmade hcell
  cases hread with
  | @find samples offset instruments _ _ _ _ _ hfind hcompleted hbefore =>
    -- there is one search in the history, and sector 1 was chosen before it
    have hearlier : earlier = listening := by
      rcases later with _ | ⟨newest, _ | ⟨read, later⟩⟩
      · cases hsplit
      · cases hsplit
        rfl
      · have hrest : listening = later ++ .find samples offset instruments :: earlier :=
          (List.cons.inj (List.cons.inj hsplit).2).2
        have hmem : SyncEvent.find samples offset instruments ∈ listening := by
          rw [hrest]
          exact List.mem_append_right later List.mem_cons_self
        simp [listening] at hmem
    rw [hearlier] at hbefore
    have hone : (after start listening).sector? = some 1 := rfl
    rw [hone] at hbefore
    cases hbefore
    exact absurd hsector (by decide)

end Synchronizer

end LteReceiver
