import LteReceiver.Proofs.Sync.Peaks
import LteReceiver.Sync.Synchronizer

/-!
# The course of a search

What a search can do, whatever its instruments measure. A synchronizer that was made for some sizes
is `Sound`; a search of a sound one never looks outside its signal and takes one of three courses
(`Sound.course`):

* it is refused, and nothing changes;
* the peak misses the threshold, and the averages of the peak are all that changes;
* a symbol is detected, and each of the three steps after that takes a course of its own
  (`CpCourse`, `SecondaryCourse`).

Every course says how the synchronizer is left, so facts about a search follow by cases on it. That
a synchronizer stays sound is the first one (`SearchCourse.sound`).
-/

namespace LteReceiver

/-! ## Lengths -/

theorem scaledCp_le (fftSize : Nat) {first second : Nat} (h : first ≤ second) :
    scaledCp fftSize first ≤ scaledCp fftSize second :=
  Nat.div_le_div_right (Nat.mul_le_mul_right fftSize h)

theorem normalCp_le_extendedCp (fftSize : Nat) : normalCp 1 fftSize ≤ extendedCp fftSize :=
  scaledCp_le fftSize (by decide)

theorem CyclicPrefix.samples_le (cp : CyclicPrefix) (fftSize : Nat) :
    cp.samples fftSize ≤ extendedCp fftSize := by
  cases cp with
  | normal => exact normalCp_le_extendedCp fftSize
  | extended => exact Nat.le_refl _

theorem slice?_eq {samples : Array Sample} {first last : Nat} (hfirst : first ≤ last)
    (hlast : last ≤ samples.size) : slice? samples first last = some (samples.extract first last) :=
  if_pos ⟨hfirst, hlast⟩

/-! ## Secondary symbols -/

/-- A pair of shifts belongs to a group that there is. -/
theorem lt_of_groupOf? {first second group : Nat} (h : groupOf? first second = some group) :
    group < Pci.groupCount ∧
      (groupShifts group = (first, second) ∨ groupShifts group = (second, first)) := by
  unfold groupOf? at h
  by_cases hnone : halfLength ≤ first ∨ halfLength ≤ second ∨ first = second
  · rw [if_pos hnone] at h
    cases h
  · rw [if_neg hnone] at h
    refine ⟨List.mem_range.mp (List.mem_of_find?_eq_some h), ?_⟩
    by_cases hlt : first < second
    · simp only [if_pos hlt] at h
      have hshifts := List.find?_eq_some_iff_append.mp h
      exact .inl (eq_of_beq hshifts.1)
    · simp only [if_neg hlt] at h
      have hshifts := List.find?_eq_some_iff_append.mp h
      exact .inr (eq_of_beq hshifts.1)

theorem SecondaryDetector.detect_eq (detector : SecondaryDetector) {symbol : Array Sample}
    (h : symbol.size = detector.fftSize) (algorithm : SecondaryAlgorithm) (shifts : ShiftMeter) :
    detector.detect symbol algorithm shifts =
      .ok (shifts detector.scrambling symbol algorithm) := by
  rw [detect, if_neg (by omega), ← h, Array.extract_size]

namespace Synchronizer

variable {s : Synchronizer} {samples : Array Sample} {peak : Nat} {sector : Fin 3}
  {offset : Nat} {instruments : Instruments}

/-! ## Sound synchronizers -/

/-- What is true of every synchronizer from its making on. -/
structure Sound (s : Synchronizer) : Prop where
  isFftSize : isFftSize s.fftSize = true
  fftSize_le : s.fftSize ≤ s.frameSize
  frameSize_le : s.frameSize ≤ maxFrameSize
  primary : s.primary.fftSize = s.fftSize
  secondary : s.secondary.fftSize = s.fftSize
  /-- Symbols are read with the scrambling of the sector that is searched for. -/
  scrambling : s.secondary.scrambling = .ofSector s.secondary.sector
  sector : ∀ sector, s.sector? = some sector → s.secondary.sector = sector
  group : ∀ group, s.group? = some group → group < Pci.groupCount

theorem Sound.fftSize_pos (h : s.Sound) : 0 < s.fftSize :=
  Nat.lt_of_lt_of_le (by decide : 0 < minFftSize) (le_of_isFftSize h.isFftSize).1

theorem Sound.scrambling_eq (h : s.Sound) (hsector : s.sector? = some sector) :
    s.secondary.scrambling = .ofSector sector := by
  rw [h.scrambling, h.sector sector hsector]

/-! ## The cyclic prefix -/

/-- The ways the prefix is updated. -/
inductive CpCourse (s : Synchronizer) (peak : Nat) : StepOutcome → Synchronizer → Prop
  | disabled (hoff : s.detectCp = false) : CpCourse s peak .disabled s
  | insufficientSamples (hon : s.detectCp = true)
      (hroom : peak < 2 * (s.fftSize + extendedCp s.fftSize)) :
      CpCourse s peak .insufficientSamples s
  | completed (hon : s.detectCp = true) (hroom : 2 * (s.fftSize + extendedCp s.fftSize) ≤ peak)
      (cp : CyclicPrefix) (normal extended : Float32) :
      CpCourse s peak .completed
        { s with cp := cp, normalEvidence := normal, extendedEvidence := extended }

theorem exists_guardMatch {fftSize cpLength first : Nat} (instruments : Instruments)
    (h : first + fftSize + cpLength ≤ samples.size) :
    ∃ found, guardMatch samples fftSize cpLength first instruments = some found := by
  rw [guardMatch, slice?_eq (by omega) (by omega), slice?_eq (by omega) h]
  exact ⟨_, rfl⟩

/-- Both symbols that end at a position lie in the signal, with prefixes of their length. -/
theorem exists_cpEvidence {fftSize cpLength : Nat} (instruments : Instruments)
    (hroom : 2 * (fftSize + cpLength) ≤ peak) (hpeak : peak ≤ samples.size) :
    ∃ evidence, cpEvidence samples fftSize cpLength peak instruments = some evidence := by
  have hfirst : peak - 2 * (fftSize + cpLength) + fftSize + cpLength ≤ samples.size := by omega
  have hsecond : peak - 2 * (fftSize + cpLength) + (fftSize + cpLength) + fftSize + cpLength ≤
      samples.size := by
    omega
  obtain ⟨first, hfirst⟩ := exists_guardMatch instruments hfirst
  obtain ⟨second, hsecond⟩ := exists_guardMatch instruments hsecond
  simp only [cpEvidence, if_pos hroom, hfirst, hsecond, Option.bind_eq_bind, Option.bind_some]
  exact ⟨_, rfl⟩

theorem exists_decideCp (instruments : Instruments)
    (hroom : 2 * (s.fftSize + extendedCp s.fftSize) ≤ peak) (hpeak : peak ≤ samples.size) :
    ∃ cp normal extended, s.decideCp samples peak instruments =
      some (cp, { s with normalEvidence := normal, extendedEvidence := extended }) := by
  have hnormal : 2 * (s.fftSize + normalCp 1 s.fftSize) ≤ peak := by
    have hle := normalCp_le_extendedCp s.fftSize
    omega
  obtain ⟨normal, hnormal⟩ := exists_cpEvidence instruments hnormal hpeak
  obtain ⟨extended, hextended⟩ := exists_cpEvidence instruments hroom hpeak
  simp only [decideCp, hnormal, hextended, Option.bind_eq_bind, Option.bind_some]
  exact ⟨_, _, _, rfl⟩

theorem course_updateCp (hpeak : peak ≤ samples.size) (instruments : Instruments) :
    ∃ outcome after, s.updateCp samples peak instruments = some (outcome, after) ∧
      CpCourse s peak outcome after := by
  unfold updateCp
  cases hon : s.detectCp with
  | false => exact ⟨_, _, rfl, .disabled hon⟩
  | true =>
    by_cases hroom : 2 * (s.fftSize + extendedCp s.fftSize) ≤ peak
    · obtain ⟨cp, normal, extended, hdecide⟩ := exists_decideCp instruments hroom hpeak
      refine ⟨_, _, ?_, .completed hon hroom cp normal extended⟩
      simp only [Bool.not_true, Bool.false_eq_true, if_false, if_pos hroom, hdecide,
        Option.bind_eq_bind, Option.bind_some]
      rfl
    · refine ⟨_, _, ?_, .insufficientSamples hon (Nat.lt_of_not_le hroom)⟩
      simp only [Bool.not_true, Bool.false_eq_true, if_false, if_neg hroom]

/-! ## The secondary symbol -/

/-- How far in front of the end of the primary symbol the secondary one starts. -/
def secondaryDistance (s : Synchronizer) : Nat :=
  2 * s.fftSize + s.cp.samples s.fftSize

/-- A symbol with the frequency offset undone, when that is wanted and there is one. -/
def straightened (s : Synchronizer) (symbol : Array Sample) : Array Sample :=
  if s.correctOffset && s.frequencyOffset != 0 then
    (s.rotator.correctInPlace symbol (-s.frequencyOffset / (s.fftSize : Nat))).1
  else symbol

/-- What the symbol in front of the primary one of a sector is read as, by the prefix and the
frequency offset at hand. -/
def reading (s : Synchronizer) (samples : Array Sample) (peak : Nat) (sector : Fin 3)
    (instruments : Instruments) : SecondaryMatch :=
  let first := peak - s.secondaryDistance
  let symbol := samples.extract first (first + s.fftSize)
  instruments.shifts (.ofSector sector) (s.straightened symbol) s.algorithm

/-- The ways the secondary symbol is read. -/
inductive SecondaryCourse (s : Synchronizer) (samples : Array Sample) (peak : Nat)
    (sector : Fin 3) (instruments : Instruments) : StepOutcome → Synchronizer → Prop
  | disabled (hoff : s.secondaryEnabled = false) :
      SecondaryCourse s samples peak sector instruments .disabled s
  | insufficientSamples (hon : s.secondaryEnabled = true) (hroom : peak < s.secondaryDistance) :
      SecondaryCourse s samples peak sector instruments .insufficientSamples
        { s with group? := none }
  | failed {found : SecondaryMatch} (hon : s.secondaryEnabled = true)
      (hroom : s.secondaryDistance ≤ peak)
      (hfound : s.reading samples peak sector instruments = found)
      (hgroup : groupOf? found.first found.second = none) (rotator : Rotator) :
      SecondaryCourse s samples peak sector instruments .failed
        { s with
          group? := none
          subframe := subframeOf found.first found.second
          rotator := rotator }
  | completed {found : SecondaryMatch} {group : Nat} (hon : s.secondaryEnabled = true)
      (hroom : s.secondaryDistance ≤ peak)
      (hfound : s.reading samples peak sector instruments = found)
      (hgroup : groupOf? found.first found.second = some group) (rotator : Rotator) :
      SecondaryCourse s samples peak sector instruments .completed
        { s with
          group? := some group
          subframe := subframeOf found.first found.second
          rotator := rotator }

theorem size_straightened (symbol : Array Sample) :
    (s.straightened symbol).size = symbol.size := by
  unfold straightened
  split
  · exact Rotator.size_rotateInto _ symbol symbol
  · rfl

/-- Straightening a symbol leaves the table of rotations behind and nothing else; what was known of
the group has no part in it. -/
theorem straighten_forgotten (s : Synchronizer) (symbol : Array Sample) :
    ∃ rotator, { s with group? := none }.straighten symbol =
      (s.straightened symbol, { s with group? := none, rotator := rotator }) := by
  unfold straighten straightened
  by_cases h : (s.correctOffset && s.frequencyOffset != 0) = true
  · refine ⟨(s.rotator.prepare symbol.size (-s.frequencyOffset / (s.fftSize : Nat))), ?_⟩
    rw [if_pos h, if_pos h]
    rfl
  · refine ⟨s.rotator, ?_⟩
    rw [if_neg h, if_neg h]

/-- Where there is room for it, a symbol is read by the scrambling of the sector, and what it is
read as is learnt. -/
theorem readSecondary_eq (hs : s.Sound) (hsector : s.sector? = some sector)
    (hroom : s.secondaryDistance ≤ peak) (hpeak : peak ≤ samples.size)
    (instruments : Instruments) :
    ∃ rotator, s.readSecondary samples peak instruments =
      some ({ s with group? := none, rotator := rotator }.learn
        (s.reading samples peak sector instruments)) := by
  have hdistance : s.fftSize ≤ s.secondaryDistance := by
    rw [secondaryDistance]
    omega
  have hfirst : peak - s.secondaryDistance ≤ peak - s.secondaryDistance + s.fftSize :=
    Nat.le_add_right _ _
  have hlast : peak - s.secondaryDistance + s.fftSize ≤ samples.size := by omega
  have hslice := slice?_eq hfirst hlast
  obtain ⟨rotator, hstraight⟩ := s.straighten_forgotten
    (samples.extract (peak - s.secondaryDistance) (peak - s.secondaryDistance + s.fftSize))
  have hsize : (s.straightened (samples.extract (peak - s.secondaryDistance)
      (peak - s.secondaryDistance + s.fftSize))).size = s.secondary.fftSize := by
    rw [size_straightened, hs.secondary, Array.size_extract]
    omega
  have hdetect := s.secondary.detect_eq hsize s.algorithm instruments.shifts
  rw [hs.scrambling_eq hsector] at hdetect
  refine ⟨rotator, ?_⟩
  simp only [secondaryDistance] at hroom hslice hstraight hdetect
  simp only [readSecondary, if_pos hroom, hslice, hstraight, hdetect, Option.bind_eq_bind,
    Option.bind_some]
  rfl

theorem course_learn (hon : s.secondaryEnabled = true) (hroom : s.secondaryDistance ≤ peak)
    (sector : Fin 3) (instruments : Instruments) (rotator : Rotator) :
    ∃ outcome after, { s with group? := none, rotator := rotator }.learn
        (s.reading samples peak sector instruments) = (outcome, after) ∧
      SecondaryCourse s samples peak sector instruments outcome after := by
  unfold learn
  cases hgroup : groupOf? (s.reading samples peak sector instruments).first
    (s.reading samples peak sector instruments).second with
  | none => exact ⟨_, _, rfl, .failed hon hroom rfl hgroup rotator⟩
  | some group => exact ⟨_, _, rfl, .completed hon hroom rfl hgroup rotator⟩

theorem course_updateIdentity (hs : s.Sound) (hsector : s.sector? = some sector)
    (hpeak : peak ≤ samples.size) (instruments : Instruments) :
    ∃ outcome after, s.updateIdentity samples peak instruments = some (outcome, after) ∧
      SecondaryCourse s samples peak sector instruments outcome after := by
  unfold updateIdentity
  cases hon : s.secondaryEnabled with
  | false => exact ⟨_, _, rfl, .disabled hon⟩
  | true =>
    by_cases hroom : s.secondaryDistance ≤ peak
    · obtain ⟨rotator, hread⟩ := readSecondary_eq hs hsector hroom hpeak instruments
      obtain ⟨outcome, after, hlearn, hcourse⟩ := course_learn hon hroom sector instruments rotator
      exact ⟨outcome, after, hread.trans (congrArg some hlearn), hcourse⟩
    · exact ⟨_, _, if_neg hroom, .insufficientSamples hon (Nat.lt_of_not_le hroom)⟩

/-! ## The whole search -/

/-- The samples that a search looks at. -/
def window (s : Synchronizer) (samples : Array Sample) (offset : Nat) : Array Sample :=
  samples.extract offset (min samples.size (offset + s.frameSize))

/-- A synchronizer with another frequency offset. -/
def measured (s : Synchronizer) (frequencyOffset : Float32) : Synchronizer :=
  { s with frequencyOffset := frequencyOffset }

/-- The average of the frequency offset with the one of the primary symbol that ends at a
position. -/
def offsetWith (s : Synchronizer) (samples : Array Sample) (sector : Fin 3) (peak : Nat)
    (instruments : Instruments) : Float32 :=
  let symbol := samples.extract (peak - s.fftSize) peak
  ema (instruments.offset s.primary symbol sector) s.frequencyOffset offsetAlpha

/-- The courses of a search. -/
inductive SearchCourse (s : Synchronizer) (samples : Array Sample) (offset : Nat)
    (instruments : Instruments) : EStateM.Result ReceiveError Synchronizer SearchOutcome → Prop
  | refused (h : s.sector? = none ∨ samples.size < offset + s.fftSize)
      (fault : ConfigurationFault) :
      SearchCourse s samples offset instruments (.error (.configuration fault) s)
  | missed {sector : Fin 3} {peak : CorrelationPeak} {primary : PrimaryDetector}
      (hsector : s.sector? = some sector) (hroom : offset + s.fftSize ≤ samples.size)
      (hfound : PrimaryDetector.find (s.window samples offset) sector instruments.powers
        s.primary = .ok peak primary)
      (hlow : ¬ s.threshold ≤ peak.ratio) :
      SearchCourse s samples offset instruments
        (.ok ⟨false, peak.position, peak.ratio, .notAttempted, .notAttempted, .notAttempted⟩
          (s.notePeak primary peak.ratio))
  | detected {sector : Fin 3} {peak : CorrelationPeak} {primary : PrimaryDetector}
      {frequencyOffset : Float32} {cpStep secondaryStep : StepOutcome}
      {timed after : Synchronizer}
      (hsector : s.sector? = some sector) (hroom : offset + s.fftSize ≤ samples.size)
      (hfound : PrimaryDetector.find (s.window samples offset) sector instruments.powers
        s.primary = .ok peak primary)
      (hhigh : s.threshold ≤ peak.ratio)
      (hcp : CpCourse ((s.notePeak primary peak.ratio).measured frequencyOffset)
        (offset + peak.position) cpStep timed)
      (hsecondary : SecondaryCourse timed samples (offset + peak.position) sector instruments
        secondaryStep after)
      (hoffset : frequencyOffset = (s.notePeak primary peak.ratio).offsetWith samples sector
        (offset + peak.position) instruments) :
      SearchCourse s samples offset instruments
        (.ok ⟨true, peak.position, peak.ratio, .completed, cpStep, secondaryStep⟩ after)

theorem Sound.measured (hs : s.Sound) (frequencyOffset : Float32) :
    (s.measured frequencyOffset).Sound :=
  { hs with }

theorem CpCourse.sound {outcome : StepOutcome} {after : Synchronizer} (hs : s.Sound)
    (h : CpCourse s peak outcome after) : after.Sound := by
  cases h with
  | disabled | insufficientSamples => exact hs
  | completed => exact { hs with }

theorem CpCourse.sector?_eq {outcome : StepOutcome} {after : Synchronizer}
    (h : CpCourse s peak outcome after) : after.sector? = s.sector? := by
  cases h <;> rfl

theorem SecondaryCourse.sound {outcome : StepOutcome} {after : Synchronizer} (hs : s.Sound)
    (h : SecondaryCourse s samples peak sector instruments outcome after) : after.Sound := by
  cases h with
  | disabled => exact hs
  | insufficientSamples => exact { hs with group := fun group hgroup => by cases hgroup }
  | failed => exact { hs with group := fun group hgroup => by cases hgroup }
  | completed hon hroom hfound hgroup rotator =>
    refine { hs with group := fun group hknown => ?_ }
    cases hknown
    exact (lt_of_groupOf? hgroup).1

/-- Where a window begins, there is a symbol in it, and it is no longer than a frame. -/
theorem size_window (hroom : offset + s.fftSize ≤ samples.size) :
    (s.window samples offset).size = min s.frameSize (samples.size - offset) := by
  rw [window, Array.size_extract]
  omega

theorem measureOffset_eq (s : Synchronizer) (sector : Fin 3) (instruments : Instruments)
    (hfirst : s.fftSize ≤ peak) (hlast : peak ≤ samples.size) :
    s.measureOffset samples sector peak instruments =
      some (.completed, s.measured (s.offsetWith samples sector peak instruments)) := by
  rw [measureOffset, if_pos hfirst, slice?_eq (Nat.sub_le _ _) hlast]
  rfl

theorem course_refine (hs : s.Sound) (hsector : s.sector? = some sector)
    (hfirst : s.fftSize ≤ peak) (hlast : peak ≤ samples.size) (instruments : Instruments) :
    ∃ cpStep secondaryStep timed after,
      s.refine samples sector peak instruments =
        some ((.completed, cpStep, secondaryStep), after) ∧
      CpCourse (s.measured (s.offsetWith samples sector peak instruments)) peak cpStep timed ∧
      SecondaryCourse timed samples peak sector instruments secondaryStep after := by
  have hmeasure := measureOffset_eq s sector instruments hfirst hlast
  obtain ⟨cpStep, timed, hupdate, hcp⟩ := course_updateCp
    (s := s.measured (s.offsetWith samples sector peak instruments)) hlast instruments
  have htimed : timed.sector? = some sector := hcp.sector?_eq.trans hsector
  obtain ⟨secondaryStep, after, hidentity, hsecondary⟩ :=
    course_updateIdentity (hcp.sound (hs.measured _)) htimed hlast instruments
  refine ⟨cpStep, secondaryStep, timed, after, ?_, hcp, hsecondary⟩
  simp only [refine, hmeasure, hupdate, hidentity, Option.bind_eq_bind, Option.bind_some]
  rfl

theorem Sound.notePeak (hs : s.Sound) {primary : PrimaryDetector}
    (hprimary : primary.fftSize = s.fftSize) (ratio : Float32) :
    (s.notePeak primary ratio).Sound :=
  { hs with primary := hprimary }

/-- The symbol is found in the window of every search that is not refused. -/
theorem Sound.exists_find (hs : s.Sound) (hroom : offset + s.fftSize ≤ samples.size)
    (sector : Fin 3) (powers : PowerMeter) :
    ∃ peak primary,
      PrimaryDetector.find (s.window samples offset) sector powers s.primary =
        .ok peak primary ∧
      s.fftSize ≤ peak.position ∧
      peak.position ≤ min s.frameSize (samples.size - offset) ∧
      primary.fftSize = s.fftSize := by
  -- a frame with a symbol behind it is short enough for a correlation
  have hsize := size_window hroom
  have hle := hs.fftSize_le
  have hbounds := (le_of_isFftSize hs.isFftSize).2
  have hframe := hs.frameSize_le
  simp only [maxFftSize, maxFrameSize] at hbounds hframe
  have hfind := s.primary.exists_find sector (s.window samples offset) powers
  rw [hs.primary, hsize] at hfind
  exact hfind hs.fftSize_pos (by omega) (by omega)

/-- Where a symbol was found, it lies in the window. -/
theorem Sound.peak_of_find (hs : s.Sound) (hroom : offset + s.fftSize ≤ samples.size)
    {peak : CorrelationPeak} {primary : PrimaryDetector}
    (hfound : PrimaryDetector.find (s.window samples offset) sector instruments.powers
      s.primary = .ok peak primary) :
    s.fftSize ≤ peak.position ∧ peak.position ≤ min s.frameSize (samples.size - offset) ∧
      primary.fftSize = s.fftSize := by
  obtain ⟨_, _, hfind, hbounds⟩ := hs.exists_find hroom sector instruments.powers
  rw [hfound] at hfind
  cases hfind
  exact hbounds

/-- **The courses of a search of a sound synchronizer.** -/
theorem Sound.course (hs : s.Sound) (samples : Array Sample) (offset : Nat)
    (instruments : Instruments) :
    SearchCourse s samples offset instruments (find samples offset instruments s) := by
  unfold find
  cases hsector : s.sector? with
  | none => exact .refused (.inl hsector) _
  | some sector =>
    by_cases hshort : samples.size < offset + s.fftSize
    · simp only [if_pos hshort]
      exact .refused (.inr hshort) _
    · have hroom : offset + s.fftSize ≤ samples.size := Nat.le_of_not_lt hshort
      obtain ⟨peak, primary, hfound, hfirst, hlast, hprimary⟩ :=
        hs.exists_find hroom sector instruments.powers
      have hwindow : slice? samples offset (min samples.size (offset + s.frameSize)) =
          some (s.window samples offset) := slice?_eq (by omega) (Nat.min_le_left _ _)
      simp only [if_neg hshort, hwindow, hfound]
      by_cases hhigh : (s.notePeak primary peak.ratio).threshold ≤ peak.ratio
      · have hend : s.fftSize ≤ offset + peak.position := Nat.le_add_left_of_le hfirst
        have hpeak : offset + peak.position ≤ samples.size := by omega
        obtain ⟨cpStep, secondaryStep, timed, after, hrefine, hcp, hsecondary⟩ :=
          course_refine (hs.notePeak hprimary peak.ratio) hsector hend hpeak instruments
        rw [if_pos hhigh, hrefine]
        exact .detected hsector hroom hfound hhigh hcp hsecondary rfl
      · rw [if_neg hhigh]
        exact .missed hsector hroom hfound hhigh

theorem SearchCourse.sound {outcome : SearchOutcome} {after : Synchronizer} (hs : s.Sound)
    (h : SearchCourse s samples offset instruments (.ok outcome after)) : after.Sound := by
  cases h with
  | missed hsector hroom hfound hlow =>
    exact hs.notePeak (hs.peak_of_find hroom hfound).2.2 _
  | detected hsector hroom hfound hhigh hcp hsecondary =>
    have hnoted := hs.notePeak (hs.peak_of_find hroom hfound).2.2
    exact hsecondary.sound (hcp.sound ((hnoted _).measured _))

/-! ## How the steps end -/

section Steps

variable {outcome : StepOutcome} {after : Synchronizer}

theorem CpCourse.outcome_eq (h : CpCourse s peak outcome after) :
    outcome = if s.detectCp = false then .disabled
      else if 2 * (s.fftSize + extendedCp s.fftSize) ≤ peak then .completed
      else .insufficientSamples := by
  cases h with
  | disabled hoff => rw [if_pos hoff]
  | insufficientSamples hon hroom =>
    rw [if_neg (by rw [hon]; decide), if_neg (Nat.not_le_of_lt hroom)]
  | completed hon hroom => rw [if_neg (by rw [hon]; decide), if_pos hroom]

/-- Everything is kept unless the step completes. -/
theorem CpCourse.kept (h : CpCourse s peak outcome after) (hnot : outcome ≠ .completed) :
    after = s := by
  cases h with
  | disabled | insufficientSamples => rfl
  | completed => exact absurd rfl hnot

theorem CpCourse.cp_eq (h : CpCourse s peak outcome after) (hnot : outcome ≠ .completed) :
    after.cp = s.cp := by
  rw [h.kept hnot]

theorem CpCourse.room (h : CpCourse s peak .completed after) :
    2 * (s.fftSize + extendedCp s.fftSize) ≤ peak := by
  cases h
  assumption

theorem CpCourse.fftSize_eq (h : CpCourse s peak outcome after) : after.fftSize = s.fftSize := by
  cases h <;> rfl

theorem CpCourse.secondaryEnabled_eq (h : CpCourse s peak outcome after) :
    after.secondaryEnabled = s.secondaryEnabled := by
  cases h <;> rfl

theorem SecondaryCourse.cp_eq
    (h : SecondaryCourse s samples peak sector instruments outcome after) :
    after.cp = s.cp := by
  cases h <;> rfl

theorem SecondaryCourse.sector?_eq
    (h : SecondaryCourse s samples peak sector instruments outcome after) :
    after.sector? = s.sector? := by
  cases h <;> rfl

theorem SecondaryCourse.disabled_iff
    (h : SecondaryCourse s samples peak sector instruments outcome after) :
    outcome = .disabled ↔ s.secondaryEnabled = false := by
  cases h with
  | disabled hoff => exact iff_of_true rfl hoff
  | insufficientSamples hon | failed hon | completed hon => simp [hon]

theorem SecondaryCourse.insufficientSamples_iff
    (h : SecondaryCourse s samples peak sector instruments outcome after) :
    outcome = .insufficientSamples ↔ s.secondaryEnabled = true ∧ peak < s.secondaryDistance := by
  cases h with
  | disabled hoff => simp [hoff]
  | insufficientSamples hon hroom => exact iff_of_true rfl ⟨hon, hroom⟩
  | failed hon hroom | completed hon hroom => simp [Nat.not_lt_of_le hroom]

/-- The secondary symbol is looked for with the prefix that is in force in the end. -/
theorem SecondaryCourse.secondaryDistance_eq
    (h : SecondaryCourse s samples peak sector instruments outcome after) (noted : Synchronizer)
    (hsize : s.fftSize = noted.fftSize) :
    s.secondaryDistance = 2 * noted.fftSize + after.cp.samples noted.fftSize := by
  rw [secondaryDistance, h.cp_eq, hsize]

/-- Where the symbol is read, it is a symbol of some group or of none. -/
theorem SecondaryCourse.completed_or_failed
    (h : SecondaryCourse s samples peak sector instruments outcome after)
    (hon : s.secondaryEnabled = true) (hroom : s.secondaryDistance ≤ peak) :
    outcome = .completed ∨ outcome = .failed := by
  cases h with
  | disabled hoff => exact absurd hon (by rw [hoff]; decide)
  | insufficientSamples _ hshort => exact absurd hroom (Nat.not_le_of_lt hshort)
  | failed => exact .inr rfl
  | completed => exact .inl rfl

end Steps

/-- A search is refused where it has no sector or no room for a symbol. -/
theorem SearchCourse.refused_iff {result : EStateM.Result ReceiveError Synchronizer SearchOutcome}
    (h : SearchCourse s samples offset instruments result) :
    (∃ e left, result = .error e left) ↔
      s.sector? = none ∨ samples.size < offset + s.fftSize := by
  cases h with
  | refused hwhy fault => exact iff_of_true ⟨_, _, rfl⟩ hwhy
  | missed hsector hroom | detected hsector hroom =>
    refine iff_of_false (fun ⟨e, left, he⟩ => by cases he) fun hwhy => ?_
    rcases hwhy with hnone | hshort
    · rw [hsector] at hnone
      cases hnone
    · exact absurd hroom (Nat.not_le_of_lt hshort)

/-- A search that is refused leaves the synchronizer as it was. -/
theorem SearchCourse.left_eq {e : ReceiveError} {left : Synchronizer}
    (h : SearchCourse s samples offset instruments (.error e left)) : left = s := by
  cases h
  rfl

/-- The position of a search that is not refused lies in its window. -/
theorem SearchCourse.position {outcome : SearchOutcome} {after : Synchronizer} (hs : s.Sound)
    (h : SearchCourse s samples offset instruments (.ok outcome after)) :
    s.fftSize ≤ outcome.position ∧
      outcome.position ≤ min s.frameSize (samples.size - offset) := by
  cases h with
  | missed hsector hroom hfound | detected hsector hroom hfound =>
    obtain ⟨hfirst, hlast, -⟩ := hs.peak_of_find hroom hfound
    exact ⟨hfirst, hlast⟩

/-! ## What a search leaves -/

/-- A synchronizer that goes on with a prefix and a frequency offset. -/
def tuned (s : Synchronizer) (cp : CyclicPrefix) (frequencyOffset : Float32) : Synchronizer :=
  { s with cp := cp, frequencyOffset := frequencyOffset }

theorem cellId?_eq_some_iff (s : Synchronizer) (pci : Pci) :
    s.cellId? = some pci ↔ ∃ group sector, s.group? = some group ∧ s.sector? = some sector ∧
      group < Pci.groupCount ∧ pci = ⟨3 * group + sector⟩ := by
  rw [cellId?]
  cases hgroup : s.group? with
  | none => simp
  | some group =>
    cases hsector : s.sector? with
    | none => simp
    | some sector =>
      have hlt : sector.val < Pci.sectorCount := sector.isLt
      simp [Pci.ofParts?, hlt, eq_comm]

section Left

variable {outcome : SearchOutcome} {after : Synchronizer}
  (h : SearchCourse s samples offset instruments (.ok outcome after))
include h

theorem SearchCourse.sector?_eq : after.sector? = s.sector? := by
  cases h with
  | missed => rfl
  | detected hsector hroom hfound hhigh hcp hsecondary =>
    exact hsecondary.sector?_eq.trans hcp.sector?_eq

/-- A search keeps the sizes. -/
theorem SearchCourse.sizes_eq : after.fftSize = s.fftSize ∧ after.frameSize = s.frameSize := by
  cases h with
  | missed => exact ⟨rfl, rfl⟩
  | detected hsector hroom hfound hhigh hcp hsecondary =>
    cases hcp <;> cases hsecondary <;> exact ⟨rfl, rfl⟩

/-- A search that completes the third step read, by the prefix and the frequency offset that it
leaves, a pair of shifts of the group that it leaves. -/
theorem SearchCourse.completed (hcompleted : outcome.secondaryStep = .completed) :
    ∃ sector group, s.sector? = some sector ∧ after.group? = some group ∧
      let read := s.tuned after.cp after.frequencyOffset
      let found := read.reading samples (offset + outcome.position) sector instruments
      read.secondaryDistance ≤ offset + outcome.position ∧
      groupOf? found.first found.second = some group ∧
      after.subframe = subframeOf found.first found.second := by
  cases h with
  | missed => cases hcompleted
  | detected hsector hroom hfound hhigh hcp hsecondary =>
    cases hcompleted
    cases hsecondary with
    | completed hon hroom hread hgroup rotator =>
      refine ⟨_, _, hsector, rfl, ?_⟩
      cases hcp with
      | disabled | insufficientSamples | completed =>
        subst hread
        exact ⟨hroom, hgroup, rfl⟩

/-- A search that tries the third step without completing it leaves no group. -/
theorem SearchCourse.group?_of_tried
    (htried : outcome.secondaryStep = .failed ∨ outcome.secondaryStep = .insufficientSamples) :
    after.group? = none := by
  cases h with
  | missed => rcases htried with htried | htried <;> cases htried
  | detected hsector hroom hfound hhigh hcp hsecondary =>
    cases hsecondary with
    | disabled | completed => rcases htried with htried | htried <;> cases htried
    | insufficientSamples | failed => rfl

/-- A search that does not try the third step keeps the group. -/
theorem SearchCourse.group?_of_untried
    (huntried : outcome.secondaryStep = .disabled ∨ outcome.secondaryStep = .notAttempted) :
    after.group? = s.group? := by
  cases h with
  | missed => rfl
  | detected hsector hroom hfound hhigh hcp hsecondary =>
    cases hsecondary with
    | disabled => cases hcp <;> rfl
    | insufficientSamples | failed | completed =>
      rcases huntried with huntried | huntried <;> cases huntried

end Left

end Synchronizer

end LteReceiver
