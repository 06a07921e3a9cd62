import LteReceiver.Proofs.Action
import LteReceiver.Proofs.Sync.Course

/-!
# Runs of a synchronizer

A synchronizer is made for some sizes or with some settings and any transforms (`Synchronizer.Made`)
and goes through settings and searches (`SyncEvent`), in any order. Each search brings its own
instruments, so a history stands for all numbers that the searches could have measured.
`Synchronizer.after` is the synchronizer after a history, which lists its events with the latest
first.

It stays sound throughout (`sound_after`), so the course of each of its searches is known, and with
that how each step of a search ends (`SearchEnd`, `find_of_made`).
-/

namespace LteReceiver

/-- What can be done with a synchronizer. -/
inductive SyncEvent where
  | setSector (sector : Nat)
  | setThreshold (threshold : Float32)
  | setSecondaryEnabled (enabled : Bool)
  | setCorrectOffset (enabled : Bool)
  | setDetectCp (enabled : Bool)
  | setAlpha (alpha : Float32)
  | setCp (cp : CyclicPrefix)
  | setAlgorithm (algorithm : SecondaryAlgorithm)
  | reset
  | decideCp (samples : Array Sample) (peak : Nat) (instruments : Instruments)
  | find (samples : Array Sample) (offset : Nat) (instruments : Instruments)

theorem SecondaryDetector.setSector_spec {detector : SecondaryDetector}
    (h : detector.scrambling = .ofSector detector.sector) (sector : Nat) :
    (detector.setSector sector).fftSize = detector.fftSize ∧
      (detector.setSector sector).scrambling = .ofSector sector ∧
      (detector.setSector sector).sector = sector := by
  unfold setSector
  split
  next hsame => exact ⟨rfl, hsame ▸ h, hsame.symm⟩
  next => exact ⟨rfl, rfl, rfl⟩

namespace Synchronizer

/-- A synchronizer as it is made. -/
def Made (s : Synchronizer) : Prop :=
  (∃ frameSize fftSize transform, ofSizes frameSize fftSize transform = .ok s) ∨
    ∃ settings transform, ofSettings settings transform = .ok s

/-- The synchronizer after an event, whether that is answered or fails. -/
def perform (s : Synchronizer) : SyncEvent → Synchronizer
  | .setSector sector => (s.setSector sector).toOption.getD s
  | .setThreshold threshold => s.setThreshold threshold
  | .setSecondaryEnabled enabled => s.setSecondaryEnabled enabled
  | .setCorrectOffset enabled => s.setCorrectOffset enabled
  | .setDetectCp enabled => s.setDetectCp enabled
  | .setAlpha alpha => s.setAlpha alpha
  | .setCp cp => s.setCp cp
  | .setAlgorithm algorithm => s.setAlgorithm algorithm
  | .reset => s.reset
  | .decideCp samples peak instruments => ((s.decideCp samples peak instruments).map (·.2)).getD s
  | .find samples offset instruments => stateAfter (find samples offset instruments s)

/-- The synchronizer after a history. -/
def after (start : Synchronizer) : List SyncEvent → Synchronizer
  | [] => start
  | event :: past => perform (after start past) event

variable {s start : Synchronizer}

theorem perform_setSector (s : Synchronizer) (sector : Nat) :
    s.perform (.setSector sector) = if h : sector < 3 then
      { s with sector? := some ⟨sector, h⟩, secondary := s.secondary.setSector sector }
    else s := by
  by_cases h : sector < 3
  · simp only [perform, Synchronizer.setSector, dif_pos h]
    rfl
  · simp only [perform, Synchronizer.setSector, dif_neg h]
    rfl

/-- Deciding for a prefix changes the evidence at most. -/
theorem perform_decideCp (s : Synchronizer) (samples : Array Sample) (peak : Nat)
    (instruments : Instruments) :
    ∃ normal extended, s.perform (.decideCp samples peak instruments) =
      { s with normalEvidence := normal, extendedEvidence := extended } := by
  simp only [perform, Synchronizer.decideCp]
  cases cpEvidence samples s.fftSize (normalCp 1 s.fftSize) peak instruments with
  | none => exact ⟨_, _, rfl⟩
  | some normal =>
    cases cpEvidence samples s.fftSize (extendedCp s.fftSize) peak instruments with
    | none => exact ⟨_, _, rfl⟩
    | some extended => exact ⟨_, _, rfl⟩

section Find

variable {samples : Array Sample} {offset : Nat} {instruments : Instruments} {left : Synchronizer}

theorem perform_find_error {e : ReceiveError}
    (h : find samples offset instruments s = .error e left) :
    s.perform (.find samples offset instruments) = left :=
  congrArg stateAfter h

theorem perform_find_ok {outcome : SearchOutcome}
    (h : find samples offset instruments s = .ok outcome left) :
    s.perform (.find samples offset instruments) = left :=
  congrArg stateAfter h

end Find

/-! ## Soundness -/

theorem ofSizes_spec {frameSize fftSize : Nat} {transform : Transform}
    (h : ofSizes frameSize fftSize transform = .ok s) :
    (s.Sound ∧ s.sector? = none ∧ s.group? = none) ∧
      s.fftSize = fftSize ∧ s.frameSize = frameSize := by
  unfold ofSizes at h
  cases hsize : isFftSize fftSize with
  | false =>
    rw [hsize] at h
    cases h
  | true =>
    cases hframe : decide (maxFrameSize < frameSize) || decide (frameSize < fftSize) with
    | true =>
      rw [hsize, hframe] at h
      cases h
    | false =>
      have hprimary : PrimaryDetector.ofFftSize fftSize transform = .ok _ := if_pos hsize
      have hsecondary : SecondaryDetector.ofFftSize fftSize = .ok _ := if_pos hsize
      rw [hsize, hframe, hprimary, hsecondary] at h
      cases h
      simp only [Bool.or_eq_false_iff, decide_eq_false_iff_not, Nat.not_lt] at hframe
      refine ⟨⟨?_, rfl, rfl⟩, rfl, rfl⟩
      exact {
        isFftSize := hsize
        fftSize_le := hframe.2
        frameSize_le := hframe.1
        primary := rfl
        secondary := rfl
        scrambling := rfl
        sector := fun sector hsector => by cases hsector
        group := fun group hgroup => by cases hgroup }

section Settings

variable (hs : s.Sound)
include hs

theorem Sound.setThreshold (threshold : Float32) : (s.setThreshold threshold).Sound :=
  { hs with }

theorem Sound.setAlgorithm (algorithm : SecondaryAlgorithm) : (s.setAlgorithm algorithm).Sound :=
  { hs with }

theorem Sound.setDetectCp (enabled : Bool) : (s.setDetectCp enabled).Sound :=
  { hs with }

theorem Sound.setCorrectOffset (enabled : Bool) : (s.setCorrectOffset enabled).Sound :=
  { hs with }

theorem Sound.setSecondaryEnabled (enabled : Bool) : (s.setSecondaryEnabled enabled).Sound :=
  { hs with }

theorem Sound.setAlpha (alpha : Float32) : (s.setAlpha alpha).Sound :=
  { hs with primary := hs.primary }

end Settings

theorem ofSettings_spec {settings : SyncSettings} {transform : Transform}
    (h : ofSettings settings transform = .ok s) :
    (s.Sound ∧ s.sector? = none ∧ s.group? = none) ∧
      s.fftSize = settings.fftSize ∧ s.frameSize = settings.frameSize := by
  unfold ofSettings at h
  cases hmade : ofSizes settings.frameSize settings.fftSize transform with
  | error fault =>
    rw [hmade] at h
    cases h
  | ok made =>
    rw [hmade] at h
    obtain ⟨⟨hs, hsector, hgroup⟩, hfft, hframe⟩ := ofSizes_spec hmade
    have hset : (((((made.setThreshold settings.threshold).setAlgorithm
        settings.algorithm).setDetectCp settings.detectCp).setCorrectOffset
        settings.correctOffset).setSecondaryEnabled settings.secondaryEnabled).setAlpha
        settings.alpha = s := Except.ok.inj h
    have hsound := (((((hs.setThreshold settings.threshold).setAlgorithm
      settings.algorithm).setDetectCp settings.detectCp).setCorrectOffset
      settings.correctOffset).setSecondaryEnabled settings.secondaryEnabled).setAlpha settings.alpha
    rw [hset] at hsound
    have hkept : (s.sector? = made.sector? ∧ s.group? = made.group?) ∧
        s.fftSize = made.fftSize ∧ s.frameSize = made.frameSize := by
      simp only [← hset, Synchronizer.setAlpha, Synchronizer.setSecondaryEnabled,
        Synchronizer.setCorrectOffset, Synchronizer.setDetectCp, Synchronizer.setAlgorithm,
        Synchronizer.setThreshold, and_self]
    exact ⟨⟨hsound, hkept.1.1.trans hsector, hkept.1.2.trans hgroup⟩, hkept.2.1.trans hfft,
      hkept.2.2.trans hframe⟩

/-- A synchronizer is made sound, and with neither a sector nor a group. -/
theorem Made.spec (h : s.Made) : s.Sound ∧ s.sector? = none ∧ s.group? = none := by
  rcases h with ⟨frameSize, fftSize, transform, h⟩ | ⟨settings, transform, h⟩
  · exact (ofSizes_spec h).1
  · exact (ofSettings_spec h).1

theorem Made.sound (h : s.Made) : s.Sound :=
  h.spec.1

theorem Sound.setSector (hs : s.Sound) (sector : Fin 3) :
    Sound { s with sector? := some sector, secondary := s.secondary.setSector sector } := by
  obtain ⟨hsize, hscrambling, hsector⟩ := SecondaryDetector.setSector_spec hs.scrambling sector
  refine { hs with secondary := hsize.trans hs.secondary, scrambling := ?_, sector := ?_ }
  · rw [hscrambling, hsector]
  · intro chosen hchosen
    cases hchosen
    exact hsector

theorem sound_perform (hs : s.Sound) (event : SyncEvent) : (s.perform event).Sound := by
  cases event with
  | setSector sector =>
    rw [perform_setSector]
    split
    next h => exact hs.setSector ⟨sector, h⟩
    next => exact hs
  | setThreshold threshold => exact hs.setThreshold threshold
  | setSecondaryEnabled enabled => exact hs.setSecondaryEnabled enabled
  | setCorrectOffset enabled => exact hs.setCorrectOffset enabled
  | setDetectCp enabled => exact hs.setDetectCp enabled
  | setAlpha alpha => exact hs.setAlpha alpha
  | setCp cp => exact { hs with }
  | setAlgorithm algorithm => exact hs.setAlgorithm algorithm
  | reset => exact { hs with primary := hs.primary }
  | decideCp samples peak instruments =>
    obtain ⟨normal, extended, hdecided⟩ := s.perform_decideCp samples peak instruments
    rw [hdecided]
    exact { hs with }
  | find samples offset instruments =>
    have hcourse := hs.course samples offset instruments
    cases h : find samples offset instruments s with
    | error e left =>
      rw [h] at hcourse
      rw [perform_find_error h, hcourse.left_eq]
      exact hs
    | ok outcome next =>
      rw [h] at hcourse
      rw [perform_find_ok h]
      exact hcourse.sound hs

theorem sound_after (hstart : start.Sound) (history : List SyncEvent) :
    (after start history).Sound := by
  induction history with
  | nil => exact hstart
  | cons event past ih => exact sound_perform ih event

/-! ## How searches end -/

/-- How the steps of a search end after a detection, with the primary symbol ending at `peak`. -/
structure DetectionEnd (s : Synchronizer) (peak : Nat) (outcome : SearchOutcome)
    (next : Synchronizer) : Prop where
  offsetStep : outcome.offsetStep = .completed
  cpStep : outcome.cpStep = if s.detectCp = false then .disabled
    else if 2 * (s.fftSize + extendedCp s.fftSize) ≤ peak then .completed
    else .insufficientSamples
  cp_kept : outcome.cpStep ≠ .completed → next.cp = s.cp
  disabled_iff : outcome.secondaryStep = .disabled ↔ s.secondaryEnabled = false
  insufficientSamples_iff : outcome.secondaryStep = .insufficientSamples ↔
    s.secondaryEnabled = true ∧ peak < 2 * s.fftSize + next.cp.samples s.fftSize
  read : s.secondaryEnabled = true → 2 * s.fftSize + next.cp.samples s.fftSize ≤ peak →
    outcome.secondaryStep = .completed ∨ outcome.secondaryStep = .failed
  room : outcome.cpStep = .completed → outcome.secondaryStep ≠ .insufficientSamples

/-- How a search that answers ends. -/
structure AnswerEnd (s : Synchronizer) (samples : Array Sample) (offset : Nat)
    (outcome : SearchOutcome) (next : Synchronizer) : Prop where
  fftSize_le : s.fftSize ≤ outcome.position
  position_le : outcome.position ≤ min s.frameSize (samples.size - offset)
  missed : outcome.detected = false → outcome.offsetStep = .notAttempted ∧
    outcome.cpStep = .notAttempted ∧ outcome.secondaryStep = .notAttempted
  detected : outcome.detected = true →
    DetectionEnd s (offset + outcome.position) outcome next

/-- How a search ends. -/
structure SearchEnd (s : Synchronizer) (samples : Array Sample) (offset : Nat)
    (result : EStateM.Result ReceiveError Synchronizer SearchOutcome) : Prop where
  configuration : ∀ e left, result = .error e left → ∃ fault, e = .configuration fault
  refused_iff : (∃ e left, result = .error e left) ↔
    s.sector? = none ∨ samples.size < offset + s.fftSize
  answer : ∀ outcome next, result = .ok outcome next → AnswerEnd s samples offset outcome next
  /-- The bins of the synchronization sequences lie inside the transform. -/
  bins : binsFit syncLength s.fftSize = true

section Ends

variable {samples : Array Sample} {offset peak : Nat} {instruments : Instruments}
  {sector : Fin 3} {timed next : Synchronizer} {outcome : SearchOutcome}

/-- The third step takes over the switches and the prefix that the second one leaves. -/
theorem DetectionEnd.of_courses {frequencyOffset : Float32}
    (hoffset : outcome.offsetStep = .completed)
    (hcp : CpCourse (s.measured frequencyOffset) peak outcome.cpStep timed)
    (hsecondary : SecondaryCourse timed samples peak sector instruments outcome.secondaryStep
      next) : DetectionEnd s peak outcome next := by
  have hdistance := hsecondary.secondaryDistance_eq s hcp.fftSize_eq
  have hon : timed.secondaryEnabled = s.secondaryEnabled := hcp.secondaryEnabled_eq
  have hdisabled := hsecondary.disabled_iff
  have hshort := hsecondary.insufficientSamples_iff
  have hread := hsecondary.completed_or_failed
  rw [hon] at hdisabled hshort hread
  rw [hdistance] at hshort hread
  refine ⟨hoffset, hcp.outcome_eq, fun hnot => hsecondary.cp_eq.trans (hcp.cp_eq hnot), hdisabled,
    hshort, hread, fun hcompleted hinsufficient => ?_⟩
  rw [hcompleted] at hcp
  have hroom : 2 * (s.fftSize + extendedCp s.fftSize) ≤ peak := hcp.room
  have hle := next.cp.samples_le s.fftSize
  have hless := (hshort.mp hinsufficient).2
  omega

theorem SearchCourse.answerEnd (hs : s.Sound)
    (h : SearchCourse s samples offset instruments (.ok outcome next)) :
    AnswerEnd s samples offset outcome next := by
  obtain ⟨hfirst, hlast⟩ := h.position hs
  refine ⟨hfirst, hlast, ?_, ?_⟩
  · intro hmissed
    cases h with
    | missed => exact ⟨rfl, rfl, rfl⟩
    | detected => cases hmissed
  · intro hdetected
    cases h with
    | missed => cases hdetected
    | detected hsector hroom hfound hhigh hcp hsecondary =>
      exact { DetectionEnd.of_courses (s := s.notePeak _ _) rfl hcp hsecondary with }

end Ends

/--
**How every search ends.**

Whatever was done with a synchronizer before and whatever its instruments measure, a search never
looks outside its signal. It is refused if no sector was chosen or if there is no room for a symbol,
and only then. Otherwise it answers with a position that lies in its window. Below the threshold no
step is attempted. After a detection

* the frequency offset is always measured;
* the prefix is updated, unless that is turned off, where there is room for two symbols with the
  extended prefix, and it is kept if it is not updated;
* the secondary symbol is read, unless that is turned off, where there is room for it with the
  prefix then in force, so there is always room for it where the prefix was updated.
-/
theorem find_of_made (hstart : start.Made) (history : List SyncEvent) (samples : Array Sample)
    (offset : Nat) (instruments : Instruments) :
    SearchEnd (after start history) samples offset
      (find samples offset instruments (after start history)) := by
  have hs : (after start history).Sound := sound_after hstart.sound history
  have hcourse := hs.course samples offset instruments
  refine ⟨?_, hcourse.refused_iff, ?_, binsFit_of_isFftSize hs.isFftSize⟩
  · intro e left he
    rw [he] at hcourse
    cases hcourse with
    | refused hwhy fault => exact ⟨fault, rfl⟩
  · intro outcome next hfind
    rw [hfind] at hcourse
    exact hcourse.answerEnd hs

/-- Instruments that find a symbol of the first group in every signal. -/
def foundEverywhere : Instruments where
  transform := .doublePrecision
  powers := fun _ _ _ lags _ => .replicate lags 1
  offset := fun _ _ _ => 0
  guard := fun _ _ => (0, 1)
  shifts := fun _ _ _ => ⟨0, 1, 1, 1⟩

/-- A signal with room for a few symbols of 64 samples. -/
def silence : Array Sample :=
  .replicate 256 .zero

/-- A sector and a threshold that everything reaches. -/
def listening : List SyncEvent :=
  [.setThreshold 0, .setSector 1]

theorem find_of_made_silence : ∃ start outcome next, start.Made ∧
    find silence 128 foundEverywhere (after start listening) = .ok outcome next ∧
    outcome.detected = true ∧ outcome.offsetStep = .completed ∧ outcome.cpStep = .completed ∧
    outcome.secondaryStep ≠ .insufficientSamples := by
  obtain ⟨start, hsizes, hfound⟩ : ∃ start, ofSizes 64 64 = .ok start ∧
      (answerOf (find silence 128 foundEverywhere (after start listening))).toOption.map
        (fun outcome => (outcome.detected, outcome.cpStep)) = some (true, .completed) :=
    ⟨_, rfl, by decide +kernel⟩
  have hmade : start.Made := .inl ⟨64, 64, _, hsizes⟩
  have hends := find_of_made hmade listening silence 128 foundEverywhere
  cases hfind : find silence 128 foundEverywhere (after start listening) with
  | error e left =>
    rw [hfind] at hfound
    cases hfound
  | ok outcome next =>
    rw [hfind] at hfound
    obtain ⟨hdetected, hcp⟩ := Prod.mk.inj (Option.some.inj hfound)
    have hsteps := (hends.answer outcome next hfind).detected hdetected
    exact ⟨start, outcome, next, hmade, hfind, hdetected, hsteps.offsetStep, hcp, hsteps.room hcp⟩

end Synchronizer

end LteReceiver
