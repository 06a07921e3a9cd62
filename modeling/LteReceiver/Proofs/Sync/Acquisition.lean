import LteReceiver.Proofs.Downlink.Provenance
import LteReceiver.Proofs.Sync.Runs
import LteReceiver.Receiver

/-!
# What an acquisition reports

A receiver goes through acquisitions, settings of its synchronizer and whatever its downlink does
(`ReceiverEvent`), in any order. Its synchronizer sees the first two (`synchronizer_after`).

The group and the subframe of an earlier search stay in a synchronizer (`withRemains`), but they
have no part in what is reported after the next one (`report_find_withRemains`). An acquisition
reports an identity if and only if it read one itself, under the sector at hand
(`identity_of_acquire`).
-/

namespace LteReceiver

namespace Synchronizer

variable {s : Synchronizer} {samples : Array Sample} {offset peak : Nat} {sector : Fin 3}
  {instruments : Instruments}

/-! ## What stays of earlier searches -/

/-- A synchronizer with the group and the subframe of another search. -/
def withRemains (s : Synchronizer) (group? : Option Nat) (subframe : Nat) : Synchronizer :=
  { s with group? := group?, subframe := subframe }

section Remains

variable (s samples offset peak sector instruments) (group? : Option Nat) (subframe : Nat)

theorem measureOffset_withRemains :
    (s.withRemains group? subframe).measureOffset samples sector peak instruments =
      (s.measureOffset samples sector peak instruments).map fun r =>
        (r.1, r.2.withRemains group? subframe) := by
  -- the left side unfolds to the same test, which no field that stayed has a part in
  by_cases hroom : s.fftSize ≤ peak
  · rw [measureOffset, measureOffset, if_pos hroom]
    refine (if_pos hroom).trans ?_
    show (slice? samples (peak - s.fftSize) peak).bind _ = _
    cases slice? samples (peak - s.fftSize) peak <;> rfl
  · rw [measureOffset, measureOffset, if_neg hroom]
    exact if_neg hroom

theorem decideCp_withRemains :
    (s.withRemains group? subframe).decideCp samples peak instruments =
      (s.decideCp samples peak instruments).map fun r =>
        (r.1, r.2.withRemains group? subframe) := by
  show (cpEvidence samples s.fftSize (normalCp 1 s.fftSize) peak instruments).bind _ = _
  unfold decideCp
  cases cpEvidence samples s.fftSize (normalCp 1 s.fftSize) peak instruments with
  | none => rfl
  | some normal =>
    show (cpEvidence samples s.fftSize (extendedCp s.fftSize) peak instruments).bind _ = _
    cases cpEvidence samples s.fftSize (extendedCp s.fftSize) peak instruments <;> rfl

theorem updateCp_withRemains :
    (s.withRemains group? subframe).updateCp samples peak instruments =
      (s.updateCp samples peak instruments).map fun r =>
        (r.1, r.2.withRemains group? subframe) := by
  have hdecide := s.decideCp_withRemains samples peak instruments group? subframe
  by_cases hoff : (!s.detectCp) = true
  · rw [updateCp, updateCp, if_pos hoff]
    exact if_pos hoff
  · rw [updateCp, updateCp, if_neg hoff]
    refine (if_neg hoff).trans ?_
    by_cases hroom : 2 * (s.fftSize + extendedCp s.fftSize) ≤ peak
    · rw [if_pos hroom]
      refine (if_pos hroom).trans ?_
      rw [hdecide]
      cases s.decideCp samples peak instruments <;> rfl
    · rw [if_neg hroom]
      exact if_neg hroom

/-- What is reported after the third step, given how the first two ended. -/
def reportOf (position : Nat) (ratio : Float32) (offsetStep cpStep : StepOutcome)
    (r : StepOutcome × Synchronizer) : Acquisition :=
  r.2.acquisition ⟨true, position, ratio, offsetStep, cpStep, r.1⟩

/-- Straightening leaves what stayed alone. -/
theorem straighten_withRemains (symbol : Array Sample) :
    (s.withRemains group? subframe).straighten symbol =
      ((s.straighten symbol).1, (s.straighten symbol).2.withRemains group? subframe) := by
  by_cases hcorrect : (s.correctOffset && s.frequencyOffset != 0) = true
  · rw [straighten, straighten, if_pos hcorrect]
    exact if_pos hcorrect
  · rw [straighten, straighten, if_neg hcorrect]
    exact if_neg hcorrect

/-- Straighten a symbol and read it. -/
def readSymbol (s : Synchronizer) (instruments : Instruments) (symbol : Array Sample) :
    StepOutcome × Synchronizer :=
  let ready := (s.straighten symbol).2
  match ready.secondary.detect (s.straighten symbol).1 ready.algorithm instruments.shifts with
  | .ok found => ready.learn found
  | .error _ => (.failed, ready)

theorem readSecondary_eq_if :
    s.readSecondary samples peak instruments =
      if s.secondaryDistance ≤ peak then
        (slice? samples (peak - s.secondaryDistance)
          (peak - s.secondaryDistance + s.fftSize)).map
            ({ s with group? := none }.readSymbol instruments)
      else some (.insufficientSamples, { s with group? := none }) := by
  unfold readSecondary
  by_cases hroom : s.secondaryDistance ≤ peak
  · rw [if_pos hroom]
    refine (if_pos hroom).trans ?_
    show (slice? samples (peak - s.secondaryDistance)
      (peak - s.secondaryDistance + s.fftSize)).bind _ = _
    cases slice? samples (peak - s.secondaryDistance)
      (peak - s.secondaryDistance + s.fftSize) with
    | none => rfl
    | some symbol =>
      simp only [Option.bind_some, Option.map_some, readSymbol]
      generalize { s with group? := none }.straighten symbol = straight
      cases straight.2.secondary.detect straight.1 straight.2.algorithm instruments.shifts <;> rfl
  · rw [if_neg hroom]
    exact if_neg hroom

/-- A symbol that is read replaces what stayed, and a symbol that is not read is not reported. -/
theorem readSymbol_withRemains (position : Nat) (ratio : Float32)
    (offsetStep cpStep : StepOutcome) (symbol : Array Sample) :
    reportOf position ratio offsetStep cpStep
        ((s.withRemains group? subframe).readSymbol instruments symbol) =
      reportOf position ratio offsetStep cpStep (s.readSymbol instruments symbol) := by
  rw [readSymbol, readSymbol, straighten_withRemains]
  simp only [withRemains]
  cases (s.straighten symbol).2.secondary.detect (s.straighten symbol).1
    (s.straighten symbol).2.algorithm instruments.shifts with
  | error fault => rfl
  | ok found =>
    simp only [learn]
    cases groupOf? found.first found.second <;> rfl

theorem readSecondary_withRemains (position : Nat) (ratio : Float32)
    (offsetStep cpStep : StepOutcome) :
    ((s.withRemains group? subframe).readSecondary samples peak instruments).map
        (reportOf position ratio offsetStep cpStep) =
      (s.readSecondary samples peak instruments).map
        (reportOf position ratio offsetStep cpStep) := by
  rw [readSecondary_eq_if, readSecondary_eq_if]
  by_cases hroom : s.secondaryDistance ≤ peak
  · rw [if_pos hroom]
    refine (congrArg _ (if_pos hroom)).trans ?_
    show Option.map _ ((slice? samples (peak - s.secondaryDistance)
      (peak - s.secondaryDistance + s.fftSize)).map _) = _
    rw [Option.map_map, Option.map_map]
    refine congrArg (fun f => Option.map f _) (funext fun symbol => ?_)
    exact readSymbol_withRemains { s with group? := none } instruments none subframe position
      ratio offsetStep cpStep symbol
  · rw [if_neg hroom]
    exact (congrArg _ (if_neg hroom)).trans rfl

theorem updateIdentity_withRemains (position : Nat) (ratio : Float32)
    (offsetStep cpStep : StepOutcome) :
    ((s.withRemains group? subframe).updateIdentity samples peak instruments).map
        (reportOf position ratio offsetStep cpStep) =
      (s.updateIdentity samples peak instruments).map
        (reportOf position ratio offsetStep cpStep) := by
  by_cases hon : s.secondaryEnabled = true
  · rw [updateIdentity, updateIdentity, if_pos hon]
    refine (congrArg _ (if_pos hon)).trans ?_
    exact s.readSecondary_withRemains samples peak instruments group? subframe position ratio
      offsetStep cpStep
  · rw [updateIdentity, updateIdentity, if_neg hon]
    exact (congrArg _ (if_neg hon)).trans rfl

theorem refine_withRemains (position : Nat) (ratio : Float32) :
    ((s.withRemains group? subframe).refine samples sector peak instruments).map
        (fun r => reportOf position ratio r.1.1 r.1.2.1 (r.1.2.2, r.2)) =
      (s.refine samples sector peak instruments).map
        (fun r => reportOf position ratio r.1.1 r.1.2.1 (r.1.2.2, r.2)) := by
  -- the first two steps hand on what stayed, and the third one does not report it
  rw [refine, refine, measureOffset_withRemains]
  cases s.measureOffset samples sector peak instruments with
  | none => rfl
  | some measured =>
    show Option.map _ (((measured.2.withRemains group? subframe).updateCp samples peak
      instruments).bind _) = Option.map _ ((measured.2.updateCp samples peak instruments).bind _)
    rw [updateCp_withRemains]
    cases measured.2.updateCp samples peak instruments with
    | none => rfl
    | some timed =>
      have hread := timed.2.updateIdentity_withRemains samples peak instruments group? subframe
        position ratio measured.1 timed.1
      show Option.map _ (((timed.2.withRemains group? subframe).updateIdentity samples peak
        instruments).bind _) = Option.map _ ((timed.2.updateIdentity samples peak
          instruments).bind _)
      revert hread
      cases (timed.2.withRemains group? subframe).updateIdentity samples peak instruments <;>
        cases timed.2.updateIdentity samples peak instruments <;> exact id

/-- What is reported after a search. -/
def report : EStateM.Result ReceiveError Synchronizer SearchOutcome →
    Except ReceiveError Acquisition
  | .ok outcome left => .ok (left.acquisition outcome)
  | .error e _ => .error e

/-- **Nothing that stayed of earlier searches is reported.** -/
theorem report_find_withRemains :
    report (find samples offset instruments (s.withRemains group? subframe)) =
      report (find samples offset instruments s) := by
  -- up to the detection no field that stayed is read
  have hsector : (s.withRemains group? subframe).sector? = s.sector? := rfl
  have hsize : (s.withRemains group? subframe).fftSize = s.fftSize := rfl
  have hframe : (s.withRemains group? subframe).frameSize = s.frameSize := rfl
  have hprimary : (s.withRemains group? subframe).primary = s.primary := rfl
  rw [find, find, hsector]
  cases s.sector? with
  | none => rfl
  | some sector =>
    simp only [hsize, hframe, hprimary]
    by_cases hshort : samples.size < offset + s.fftSize
    · simp only [if_pos hshort]
      rfl
    · simp only [if_neg hshort]
      cases slice? samples offset (min samples.size (offset + s.frameSize)) with
      | none => rfl
      | some window =>
        cases hfound : PrimaryDetector.find window sector instruments.powers s.primary with
        | error e primary =>
          simp only [hfound]
          rfl
        | ok peak primary =>
          have hnoted : (s.withRemains group? subframe).notePeak primary peak.ratio =
              (s.notePeak primary peak.ratio).withRemains group? subframe := rfl
          simp only [hfound, hnoted]
          by_cases hhigh : (s.notePeak primary peak.ratio).threshold ≤ peak.ratio
          · simp only [if_pos hhigh]
            refine (congrArg report (if_pos hhigh)).trans ?_
            have hrefine := (s.notePeak primary peak.ratio).refine_withRemains samples
              (offset + peak.position) sector instruments group? subframe peak.position peak.ratio
            revert hrefine
            cases ((s.notePeak primary peak.ratio).withRemains group? subframe).refine samples
              sector (offset + peak.position) instruments <;>
            cases (s.notePeak primary peak.ratio).refine samples
              sector (offset + peak.position) instruments
            · exact fun _ => rfl
            · exact fun h => by cases h
            · exact fun h => by cases h
            · exact fun h => congrArg Except.ok (Option.some.inj h)
          · simp only [if_neg hhigh]
            exact (congrArg report (if_neg hhigh)).trans rfl

end Remains

section Acquire

variable {left : Synchronizer}

theorem acquire_of_find_ok {outcome : SearchOutcome}
    (h : find samples offset instruments s = .ok outcome left) :
    acquire samples offset instruments s = .ok (left.acquisition outcome) left :=
  bind_of_ok h

theorem acquire_of_find_error {e : ReceiveError}
    (h : find samples offset instruments s = .error e left) :
    acquire samples offset instruments s = .error e left :=
  bind_of_error h

end Acquire

/-! ## What is read -/

/-- An identity is reported with the subframe, and if and only if the search completed its third
step. It is then that of the sector searched for and of the group of the shifts that were read by
the prefix and the frequency offset reported with it. -/
theorem acquisition_of_course {outcome : SearchOutcome} {next : Synchronizer}
    (h : SearchCourse s samples offset instruments (.ok outcome next)) :
    let acquisition := next.acquisition outcome
    (acquisition.cellId?.isSome ↔ outcome.secondaryStep = .completed) ∧
    (acquisition.subframe?.isSome ↔ acquisition.cellId?.isSome) ∧
    ∀ pci, acquisition.cellId? = some pci → ∃ sector group,
      let read := s.tuned acquisition.cp acquisition.frequencyOffset
      let found := read.reading samples (offset + outcome.position) sector instruments
      s.sector? = some sector ∧ read.secondaryDistance ≤ offset + outcome.position ∧
      groupOf? found.first found.second = some group ∧ pci = ⟨3 * group + sector⟩ ∧
      acquisition.subframe? = some (subframeOf found.first found.second) := by
  intro acquisition
  have hcell : acquisition.cellId? =
      if outcome.secondaryStep = .completed then next.cellId? else none := rfl
  have hsubframe : acquisition.subframe? = acquisition.cellId?.map fun _ => next.subframe := rfl
  refine ⟨?_, by rw [hsubframe, Option.isSome_map], ?_⟩
  · rw [hcell]
    by_cases hcompleted : outcome.secondaryStep = .completed
    · obtain ⟨sector, group, hsector, hgroup, -, hread, -⟩ := h.completed hcompleted
      have hknown := (cellId?_eq_some_iff next _).mpr ⟨group, sector, hgroup,
        h.sector?_eq.trans hsector, (lt_of_groupOf? hread).1, rfl⟩
      rw [if_pos hcompleted, hknown]
      exact iff_of_true rfl hcompleted
    · rw [if_neg hcompleted]
      exact iff_of_false (by decide) hcompleted
  · intro pci hpci
    rw [hsubframe, hpci]
    rw [hcell] at hpci
    by_cases hcompleted : outcome.secondaryStep = .completed
    · rw [if_pos hcompleted] at hpci
      obtain ⟨sector, group, hsector, hgroup, hroom, hread, hlearnt⟩ := h.completed hcompleted
      obtain ⟨known, now, hknown, hnow, -, rfl⟩ := (cellId?_eq_some_iff next pci).mp hpci
      rw [hgroup] at hknown
      rw [h.sector?_eq, hsector] at hnow
      cases hknown
      cases hnow
      exact ⟨sector, group, hsector, hroom, hread, rfl, congrArg some hlearnt⟩
    · rw [if_neg hcompleted] at hpci
      cases hpci

end Synchronizer

/-! ## Runs of a receiver -/

/-- What can be asked of a receiver. -/
inductive ReceiverEvent where
  | acquire (samples : Array Sample) (offset : Nat) (instruments : Instruments)
  | synchronizer (event : SyncEvent)
  | resetSynchronizer
  | downlink (event : DownlinkEvent)

/-- What the synchronizer of a receiver sees of an event. -/
def ReceiverEvent.sync? : ReceiverEvent → Option SyncEvent
  | .acquire samples offset instruments => some (.find samples offset instruments)
  | .synchronizer event => some event
  | .resetSynchronizer => some .reset
  | .downlink _ => none

namespace Receiver

variable {σ : Type} {cell : CellConfig} {antennas : Nat} (blocks : Blocks σ cell antennas)

/-- The receiver after an event, whether that is answered or fails. -/
def perform (receiver : Receiver σ cell antennas) : ReceiverEvent → Receiver σ cell antennas
  | .acquire samples offset instruments => stateAfter (acquire samples offset instruments receiver)
  | .synchronizer event =>
    { receiver with synchronizer := receiver.synchronizer.perform event }
  | .resetSynchronizer => receiver.resetSynchronizer
  | .downlink event =>
    { receiver with downlink := receiver.downlink.perform blocks event }

/-- The receiver after a history. -/
def after (start : Receiver σ cell antennas) : List ReceiverEvent → Receiver σ cell antennas
  | [] => start
  | event :: past => perform blocks (after start past) event

variable {blocks}

theorem synchronizer_perform (receiver : Receiver σ cell antennas) (event : ReceiverEvent) :
    (receiver.perform blocks event).synchronizer =
      (event.sync?.map receiver.synchronizer.perform).getD receiver.synchronizer := by
  cases event with
  | acquire samples offset instruments =>
    show (stateAfter (onSynchronizer _ _)).synchronizer =
      receiver.synchronizer.perform (.find samples offset instruments)
    unfold onSynchronizer
    cases hfind : Synchronizer.find samples offset instruments receiver.synchronizer with
    | error e left =>
      rw [Synchronizer.perform_find_error hfind, Synchronizer.acquire_of_find_error hfind]
      rfl
    | ok outcome left =>
      rw [Synchronizer.perform_find_ok hfind, Synchronizer.acquire_of_find_ok hfind]
      rfl
  | synchronizer | resetSynchronizer | downlink => rfl

/-- The synchronizer of a receiver goes through its part of the history. -/
theorem synchronizer_after (start : Receiver σ cell antennas) (history : List ReceiverEvent) :
    (after blocks start history).synchronizer =
      start.synchronizer.after (history.filterMap ReceiverEvent.sync?) := by
  induction history with
  | nil => rfl
  | cons event past ih =>
    rw [after, synchronizer_perform, ih, List.filterMap_cons]
    cases event.sync? <;> rfl

/-! ## Reported identities -/

variable {samples : Array Sample} {offset : Nat} {instruments : Instruments}
  {acquisition : Acquisition}

theorem acquire_eq_ok {receiver next : Receiver σ cell antennas}
    (h : acquire samples offset instruments receiver = .ok acquisition next) :
    ∃ outcome left,
      Synchronizer.find samples offset instruments receiver.synchronizer = .ok outcome left ∧
      acquisition = left.acquisition outcome := by
  unfold acquire onSynchronizer at h
  cases hfind : Synchronizer.find samples offset instruments receiver.synchronizer with
  | error e left =>
    rw [Synchronizer.acquire_of_find_error hfind] at h
    cases h
  | ok outcome left =>
    rw [Synchronizer.acquire_of_find_ok hfind] at h
    cases h
    exact ⟨outcome, left, rfl, rfl⟩

theorem answerOf_acquire (receiver : Receiver σ cell antennas) :
    answerOf (acquire samples offset instruments receiver) =
      Synchronizer.report
        (Synchronizer.find samples offset instruments receiver.synchronizer) := by
  unfold acquire onSynchronizer
  cases hfind : Synchronizer.find samples offset instruments receiver.synchronizer with
  | error e left =>
    rw [Synchronizer.acquire_of_find_error hfind]
    rfl
  | ok outcome left =>
    rw [Synchronizer.acquire_of_find_ok hfind]
    rfl

/--
**An acquisition reports the identity that it read itself.**

After any history and whatever the instruments measure, an acquisition that succeeds reports an
identity and a subframe together, if and only if its own search completed the reading of a secondary
symbol. The identity is that of the sector chosen at this time and of a group of which the search
found the two shifts, in one order or the other, in the symbol that this signal has in front of its
primary one, with the scrambling of that sector. The order says which subframe it is. A group and a
subframe of earlier searches, whatever they are, have no part in the report.
-/
theorem identity_of_acquire {start next : Receiver σ cell antennas}
    (hstart : start.synchronizer.Made) (history : List ReceiverEvent)
    (h : acquire samples offset instruments (after blocks start history) = .ok acquisition next) :
    let s := (after blocks start history).synchronizer
    (acquisition.cellId?.isSome ↔ acquisition.outcome.secondaryStep = .completed) ∧
    (acquisition.subframe?.isSome ↔ acquisition.cellId?.isSome) ∧
    (∀ pci, acquisition.cellId? = some pci → ∃ (sector : Fin 3) (group : Nat),
      let peak := offset + acquisition.outcome.position
      let read := s.tuned acquisition.cp acquisition.frequencyOffset
      let found := read.reading samples peak sector instruments
      s.sector? = some sector ∧ group < Pci.groupCount ∧
      pci.value = 3 * group + sector ∧ pci.value ≤ Pci.largest ∧
      read.secondaryDistance ≤ peak ∧ peak ≤ samples.size ∧
      (groupShifts group = (found.first, found.second) ∨
        groupShifts group = (found.second, found.first)) ∧
      acquisition.subframe? = some (if found.first < found.second then 0 else 5)) ∧
    ∀ group? subframe, answerOf (acquire samples offset instruments
      { after blocks start history with synchronizer := s.withRemains group? subframe }) =
        .ok acquisition := by
  intro s
  have hs : s.Sound := by
    show (after blocks start history).synchronizer.Sound
    rw [synchronizer_after]
    exact Synchronizer.sound_after hstart.sound _
  obtain ⟨outcome, left, hfind, rfl⟩ := acquire_eq_ok h
  have hcourse := hs.course samples offset instruments
  rw [show Synchronizer.find samples offset instruments s = .ok outcome left from hfind] at hcourse
  obtain ⟨hcompleted, hsubframe, hread⟩ := Synchronizer.acquisition_of_course hcourse
  refine ⟨hcompleted, hsubframe, ?_, ?_⟩
  · intro pci hpci
    obtain ⟨sector, group, hsector, hroom, hgroup, rfl, hshown⟩ := hread pci hpci
    obtain ⟨hlt, hshifts⟩ := lt_of_groupOf? hgroup
    obtain ⟨hfirst, hlast⟩ := hcourse.position hs
    have hpositive := hs.fftSize_pos
    have hpeak : offset + outcome.position ≤ samples.size := by omega
    have hlargest : 3 * group + sector.val ≤ Pci.largest := by
      have hthree := sector.isLt
      simp only [Pci.groupCount, Pci.largest] at hlt ⊢
      omega
    exact ⟨sector, group, hsector, hlt, rfl, hlargest, hroom, hpeak, hshifts, hshown⟩
  · intro group? subframe
    rw [answerOf_acquire, Synchronizer.report_find_withRemains]
    exact congrArg Synchronizer.report hfind

open Downlink (takingTurns)
open Synchronizer (foundEverywhere silence listening)

theorem identity_of_acquire_silence :
    ∃ (start next : Receiver UInt16 cellOfTwoPorts 1) (acquisition : Acquisition),
      start.synchronizer.Made ∧
      acquire silence 128 foundEverywhere
        (after takingTurns start (listening.map .synchronizer)) = .ok acquisition next ∧
      acquisition.cellId? = some ⟨1⟩ ∧ acquisition.outcome.secondaryStep = .completed ∧
      acquisition.subframe?.isSome := by
  obtain ⟨s, hsizes, d, hcell, hacquired⟩ : ∃ s, Synchronizer.ofSizes 64 64 = .ok s ∧
      ∃ d, Downlink.ofCell cellOfTwoPorts 1 (0 : UInt16) = .ok d ∧
      (answerOf (acquire silence 128 foundEverywhere
        (after takingTurns ⟨s, d⟩ (listening.map .synchronizer)))).toOption.map (·.cellId?) =
          some (some ⟨1⟩) := ⟨_, rfl, _, rfl, by decide +kernel⟩
  have hmade : (⟨s, d⟩ : Receiver UInt16 cellOfTwoPorts 1).synchronizer.Made :=
    .inl ⟨64, 64, _, hsizes⟩
  cases h : acquire silence 128 foundEverywhere
    (after takingTurns ⟨s, d⟩ (listening.map .synchronizer)) with
  | error e next =>
    rw [h] at hacquired
    cases hacquired
  | ok acquisition next =>
    rw [h] at hacquired
    have hread : acquisition.cellId? = some ⟨1⟩ := Option.some.inj hacquired
    obtain ⟨hcompleted, hsubframe, -⟩ :=
      identity_of_acquire hmade (listening.map .synchronizer) h
    have hsome : acquisition.cellId?.isSome := by rw [hread]; rfl
    exact ⟨⟨s, d⟩, next, acquisition, hmade, h, hread, hcompleted.mp hsome, hsubframe.mpr hsome⟩

end Receiver

end LteReceiver
