import LteReceiver.Proofs.Sync.Runs

/-!
# What a search changes

A synchronizer keeps about twenty values from search to search, and the steps of a search write them
in places of their own. What a search writes follows from how its steps ended:

* a search that is refused is refused before anything is measured, and changes nothing;
* every other one notes its peak, and the detector of primary symbols goes on with other spectra and
  another average;
* after a detection each step writes what its outcome permits (`Refined`), and all other values are
  as they were.

Both courses of a search that is answered say how the synchronizer is left, so this is read off them
(`SearchCourse.refined`). `changes_of_find` puts it together, with what a reset changes.
-/

namespace LteReceiver

/-! ## The detector of primary symbols -/

namespace PrimaryDetector

/-- A detector with other spectra and another average at hand. -/
def withMemory (detector : PrimaryDetector) (correlator? : Option Correlator)
    (average? : Option PowerAverage) : PrimaryDetector :=
  { detector with correlator? := correlator?, average? := average? }

variable {detector after : PrimaryDetector} {peak : CorrelationPeak}

theorem observe_withMemory (detector : PrimaryDetector) (sector : Fin 3)
    (powers : Array Float32) : ∃ average?, (detector.observe sector powers).2 =
      detector.withMemory detector.correlator? average? := by
  unfold observe
  split
  · exact ⟨_, rfl⟩
  · exact ⟨_, rfl⟩

/-- Finding a symbol renews the spectra and the average, and nothing else. -/
theorem withMemory_of_find {window : Array Sample} {sector : Nat} {powers : PowerMeter}
    (h : find window sector powers detector = .ok peak after) :
    ∃ correlator? average?, after = detector.withMemory correlator? average? := by
  unfold find at h
  split at h
  · split at h
    · cases h
    · split at h
      · cases h
      · next size hsize =>
        simp only at h
        split at h
        next hfit =>
          obtain ⟨average?, hobserve⟩ := observe_withMemory
            { detector with correlator? := some (detector.correlatorFor size) } _ _
          exact ⟨_, average?, (congrArg stateAfter h).symm.trans hobserve⟩
        next => cases h
  · cases h

end PrimaryDetector

namespace Synchronizer

variable {s noted next start : Synchronizer} {samples : Array Sample} {offset peak : Nat}
  {sector : Fin 3} {instruments : Instruments} {outcome : SearchOutcome}

/-! ## After a detection -/

/--
What the three steps after a detection write, beside the table of rotations: the frequency offset
always, the prefix and the evidence for it only if the second step completes, and the group and the
subframe as the third step ends.
-/
structure Refined (noted : Synchronizer) (samples : Array Sample) (sector : Fin 3) (peak : Nat)
    (instruments : Instruments) (outcome : SearchOutcome) (next : Synchronizer) : Prop where
  /-- All other values are as they were. -/
  frame : next = { noted with
    frequencyOffset := next.frequencyOffset
    cp := next.cp
    normalEvidence := next.normalEvidence
    extendedEvidence := next.extendedEvidence
    group? := next.group?
    subframe := next.subframe
    rotator := next.rotator }
  offset : next.frequencyOffset = noted.offsetWith samples sector peak instruments
  cp : outcome.cpStep ≠ .completed → next.cp = noted.cp ∧
    next.normalEvidence = noted.normalEvidence ∧ next.extendedEvidence = noted.extendedEvidence
  disabled : outcome.secondaryStep = .disabled →
    next.group? = noted.group? ∧ next.subframe = noted.subframe
  insufficientSamples : outcome.secondaryStep = .insufficientSamples →
    next.group? = none ∧ next.subframe = noted.subframe
  /-- A symbol that is read is read with the prefix and the offset that are left. -/
  failed : outcome.secondaryStep = .failed →
    let found := (noted.tuned next.cp next.frequencyOffset).reading samples peak sector instruments
    groupOf? found.first found.second = none ∧ next.group? = none ∧
      next.subframe = subframeOf found.first found.second
  completed : outcome.secondaryStep = .completed →
    let found := (noted.tuned next.cp next.frequencyOffset).reading samples peak sector instruments
    ∃ group, groupOf? found.first found.second = some group ∧ next.group? = some group ∧
      next.subframe = subframeOf found.first found.second
  attempted : outcome.secondaryStep ≠ .notAttempted

/-- The steps after a detection write what their outcomes permit. -/
theorem refined_of_courses {frequencyOffset : Float32} {timed : Synchronizer}
    (hcp : CpCourse (noted.measured frequencyOffset) peak outcome.cpStep timed)
    (hsecondary : SecondaryCourse timed samples peak sector instruments outcome.secondaryStep next)
    (hoffset : frequencyOffset = noted.offsetWith samples sector peak instruments) :
    noted.Refined samples sector peak instruments outcome next := by
  obtain ⟨detected, position, ratio, offsetStep, cpStep, secondaryStep⟩ := outcome
  -- the second step decides only which prefix and evidence the third one finds
  constructor
  case frame => cases hcp <;> cases hsecondary <;> rfl
  case offset =>
    rw [← hoffset]
    cases hcp <;> cases hsecondary <;> rfl
  case cp =>
    intro hnot
    obtain rfl := hcp.kept hnot
    cases hsecondary <;> exact ⟨rfl, rfl, rfl⟩
  case disabled =>
    intro hstep
    cases hsecondary with
    | disabled => cases hcp <;> exact ⟨rfl, rfl⟩
    | insufficientSamples | failed | completed => cases hstep
  case insufficientSamples =>
    intro hstep
    cases hsecondary with
    | insufficientSamples => cases hcp <;> exact ⟨rfl, rfl⟩
    | disabled | failed | completed => cases hstep
  case failed =>
    intro hstep
    cases hsecondary with
    | failed hon hroom hfound hgroup rotator =>
      subst hfound
      cases hcp <;> exact ⟨hgroup, rfl, rfl⟩
    | disabled | insufficientSamples | completed => cases hstep
  case completed =>
    intro hstep
    cases hsecondary with
    | completed hon hroom hfound hgroup rotator =>
      subst hfound
      cases hcp <;> exact ⟨_, hgroup, rfl, rfl⟩
    | disabled | insufficientSamples | failed => cases hstep
  case attempted =>
    intro hstep
    cases hsecondary <;> cases hstep

/-! ## A search -/

/-- A search that is answered notes its peak, and then its steps write what they may. -/
theorem SearchCourse.refined
    (h : SearchCourse s samples offset instruments (.ok outcome next)) :
    ∃ sector correlator? average?, s.sector? = some sector ∧
      let noted := s.notePeak (s.primary.withMemory correlator? average?) outcome.ratio
      (outcome.detected = false → next = noted) ∧
      (outcome.detected = true →
        noted.Refined samples sector (offset + outcome.position) instruments outcome next) := by
  cases h with
  | @missed sector peak primary hsector hroom hfound hlow =>
    obtain ⟨correlator?, average?, rfl⟩ := PrimaryDetector.withMemory_of_find hfound
    refine ⟨sector, correlator?, average?, hsector, fun _ => rfl, ?_⟩
    intro hdetected
    cases hdetected
  | @detected sector peak primary _ _ _ _ _ hsector hroom hfound hhigh hcp hsecondary hoffset =>
    obtain ⟨correlator?, average?, rfl⟩ := PrimaryDetector.withMemory_of_find hfound
    refine ⟨sector, correlator?, average?, hsector, ?_, ?_⟩
    · intro hmissed
      cases hmissed
    · intro _
      exact refined_of_courses hcp hsecondary hoffset

/-- A search is refused for its arguments, whatever its instruments would measure. -/
theorem find_eq_of_refused (h : s.sector? = none ∨ samples.size < offset + s.fftSize)
    (instruments others : Instruments) :
    find samples offset instruments s = find samples offset others s := by
  unfold find
  cases hsector : s.sector? with
  | none => rfl
  | some sector =>
    have hshort : samples.size < offset + s.fftSize := by
      rcases h with hnone | hshort
      · rw [hsector] at hnone
        cases hnone
      · exact hshort
    simp only [if_pos hshort]

/--
**What searches and resets change.**

Whatever was done with a synchronizer before and whatever its instruments measure:

* a search that is refused is refused before anything is measured, and leaves the synchronizer as it
  was;
* a search below the threshold changes the last peak, the average of the peaks, and the spectra and
  the average that the detector of primary symbols has at hand;
* a search that detects a symbol changes these too, and each step after it what its outcome permits
  (`Refined`): so no search changes the sector, the threshold, the switches, the algorithm, the
  sizes or the share of a new correlation in the average;
* a reset clears the averages of the peaks, of the evidence for both prefixes and of the
  correlation, and keeps everything else.
-/
theorem changes_of_find (hstart : start.Made) (history : List SyncEvent) (samples : Array Sample)
    (offset : Nat) (instruments : Instruments) :
    let s := after start history
    (∀ e left, find samples offset instruments s = .error e left →
      left = s ∧ (∀ others, find samples offset others s = .error e s) ∧
      s.perform (.find samples offset instruments) = s) ∧
    (∀ outcome next, find samples offset instruments s = .ok outcome next →
      ∃ sector correlator? average?, s.sector? = some sector ∧
        let noted := s.notePeak (s.primary.withMemory correlator? average?) outcome.ratio
        (outcome.detected = false → next = noted) ∧
        (outcome.detected = true →
          noted.Refined samples sector (offset + outcome.position) instruments outcome next)) ∧
    s.perform .reset = { s with
      averagePeak := 0
      normalEvidence := 0
      extendedEvidence := 0
      primary := s.primary.withMemory s.primary.correlator? none } := by
  intro s
  have hs : s.Sound := sound_after hstart.sound history
  have hcourse := hs.course samples offset instruments
  refine ⟨?_, ?_, rfl⟩
  · intro e left hfind
    have hrefused := hcourse.refused_iff.mp ⟨e, left, hfind⟩
    rw [hfind] at hcourse
    obtain rfl : left = s := hcourse.left_eq
    refine ⟨rfl, fun others => ?_, perform_find_error hfind⟩
    rw [← hfind]
    exact find_eq_of_refused hrefused others instruments
  · intro outcome next hfind
    rw [hfind] at hcourse
    exact hcourse.refined

/-- A search that completes every step sets the group, and keeps what was chosen. -/
theorem changes_of_find_silence : ∃ start outcome next, start.Made ∧
    let s := after start listening
    find silence 128 foundEverywhere s = .ok outcome next ∧ outcome.detected = true ∧
    outcome.cpStep = .completed ∧ outcome.secondaryStep = .completed ∧
    s.group? = none ∧ next.group? ≠ none ∧ next.sector? = s.sector? ∧
    next.threshold = s.threshold ∧ next.algorithm = s.algorithm := by
  obtain ⟨start, hsizes, hnone, hfound⟩ : ∃ start, ofSizes 64 64 = .ok start ∧
      (after start listening).group? = none ∧
      (answerOf (find silence 128 foundEverywhere (after start listening))).toOption.map
        (fun outcome => (outcome.detected, outcome.cpStep, outcome.secondaryStep)) =
          some (true, .completed, .completed) :=
    ⟨_, rfl, rfl, by decide +kernel⟩
  have hmade : start.Made := .inl ⟨64, 64, _, hsizes⟩
  obtain ⟨-, hchanges, -⟩ := changes_of_find hmade listening silence 128 foundEverywhere
  cases hfind : find silence 128 foundEverywhere (after start listening) with
  | error e left =>
    rw [hfind] at hfound
    cases hfound
  | ok outcome next =>
    rw [hfind] at hfound
    simp only [answerOf, Except.toOption, Option.map_some, Option.some.injEq,
      Prod.mk.injEq] at hfound
    obtain ⟨hdetected, hcp, hsecondary⟩ := hfound
    obtain ⟨sector, correlator?, average?, -, -, hrefined⟩ := hchanges outcome next hfind
    have hrefined := hrefined hdetected
    obtain ⟨group, -, hgroup, -⟩ := hrefined.completed hsecondary
    have hframe := hrefined.frame
    have hsome : next.group? ≠ none := by
      rw [hgroup]
      exact Option.some_ne_none group
    exact ⟨start, outcome, next, hmade, hfind, hdetected, hcp, hsecondary, hnone, hsome,
      congrArg (·.sector?) hframe, congrArg (·.threshold) hframe, congrArg (·.algorithm) hframe⟩

end Synchronizer

end LteReceiver
