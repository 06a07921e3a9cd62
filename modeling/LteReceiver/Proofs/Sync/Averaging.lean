import LteReceiver.Proofs.Action
import LteReceiver.Proofs.Sync.Peaks

/-!
# Averages over searches

A detector of primary symbols goes through searches, settings and resets (`PrimaryEvent`), in any
order. `PrimaryDetector.after` is the detector after a history, which lists its events with the
latest first. The transforms of the detector are any ones, and all searches measure with one meter,
whichever it is.

A search measures the correlation powers (`measure`) and looks for their peak, or for that of their
average over searches (`find_eq`). Two things are kept for the next search, each good for its own
sizes. The spectra are those that a new detector would work out (`Follows.correlatorFor_eq`), so
they make no difference. The average is that of the latest run of searches that were averaged, for
one sector and one number of lags (`AveragedSearch.average?`), and a new search goes on with the run
or begins one (`averaged_eq`). So what a search finds is known from its history
(`find_after_history`).
-/

namespace LteReceiver

/-- What can be done with a detector of primary symbols. -/
inductive PrimaryEvent where
  | find (window : Array Sample) (sector : Nat)
  | setAlpha (alpha : Float32)
  | reset

/-- What a search measures: a power for each lag, with the spectra that gave them. -/
structure PowerMeasurement where
  sector : Fin 3
  correlator : Correlator
  powers : Array Float32

/-! ## Searches that are averaged -/

/-- A search whose powers went into the average. -/
structure AveragedSearch where
  sector : Fin 3
  powers : Array Float32
  /-- The share that its powers had. -/
  alpha : Float32

namespace AveragedSearch

/-- Searches for one sector at one number of lags. -/
def Alike (first second : AveragedSearch) : Prop :=
  first.sector = second.sector ∧ first.powers.size = second.powers.size

instance decidableAlike (first second : AveragedSearch) : Decidable (first.Alike second) :=
  inferInstanceAs (Decidable (_ ∧ _))

/-- Of searches, the latest first, those back to the last one that was not like the latest one. -/
def run : List AveragedSearch → List AveragedSearch
  | [] => []
  | latest :: earlier => latest :: earlier.takeWhile fun search => search.Alike latest

/-- The powers of a run of searches, the latest first, smoothed value by value; those of its first
search are taken as they are. -/
def smoothed : List AveragedSearch → Array Float32
  | [] => #[]
  | [first] => first.powers
  | search :: previous :: earlier =>
    Array.zipWith (fun old new => ema new old search.alpha) (smoothed (previous :: earlier))
      search.powers

/-- The average over the latest run of searches. -/
def average? (searches : List AveragedSearch) : Option PowerAverage :=
  searches.head?.map fun latest => ⟨latest.sector, smoothed (run searches)⟩

variable {search previous : AveragedSearch}

/-- A search like the one before it goes on with its run. -/
theorem run_of_alike (h : previous.Alike search) (earlier : List AveragedSearch) :
    run (search :: previous :: earlier) = search :: run (previous :: earlier) := by
  have hsame : (fun other : AveragedSearch => decide (other.Alike search)) =
      fun other => decide (other.Alike previous) := by
    funext other
    exact decide_eq_decide.mpr (by rw [Alike, Alike, h.1, h.2])
  rw [run, List.takeWhile_cons, if_pos (decide_eq_true h), hsame]
  rfl

/-- Another search begins a run. -/
theorem run_of_not_alike (h : ¬ previous.Alike search) (earlier : List AveragedSearch) :
    run (search :: previous :: earlier) = [search] := by
  rw [run, List.takeWhile_cons, if_neg (by simpa using h)]

/-- There is an average for each lag of the latest search. -/
theorem size_smoothed_run (latest : AveragedSearch) (earlier : List AveragedSearch) :
    (smoothed (run (latest :: earlier))).size = latest.powers.size := by
  induction earlier generalizing latest with
  | nil => rfl
  | cons previous earlier ih =>
    by_cases h : previous.Alike latest
    · have hsize := ih previous
      rw [run_of_alike h]
      rw [run] at hsize ⊢
      rw [smoothed, Array.size_zipWith, hsize, h.2, Nat.min_self]
    · rw [run_of_not_alike h]
      rfl

end AveragedSearch

namespace PrimaryDetector

/-! ## Measuring -/

/-- The part of a search that measures, with the spectra that there are for each size. -/
def measureWith (spectra : Nat → Correlator) (fftSize : Nat) (meter : PowerMeter)
    (window : Array Sample) (sector : Nat) : Except ReceiveError PowerMeasurement :=
  if h : sector < 3 then
    if window.size < fftSize then .error (.configuration (.primaryWindow window.size fftSize))
    else
      match Correlator.sizeFor? window.size fftSize with
      | none => .error .outOfRange
      | some size =>
        let lags := window.size - fftSize + 1
        if window.size ≤ (spectra size).size then
          if hlags : lags ≤ (spectra size).size then
            .ok ⟨⟨sector, h⟩, spectra size,
              (meter (spectra size) window ⟨sector, h⟩ lags hlags).toArray⟩
          else .error .outOfRange
        else .error .outOfRange
  else .error (.configuration (.sectorRange sector))

/-- What a detector measures in a window. -/
def measure (detector : PrimaryDetector) : PowerMeter → Array Sample → Nat →
    Except ReceiveError PowerMeasurement :=
  measureWith detector.correlatorFor detector.fftSize

variable {detector start : PrimaryDetector} {meter : PowerMeter} {window : Array Sample}
  {sector : Nat} {measured : PowerMeasurement}

/-- The detector with the spectra that a measurement was taken with. -/
def withSpectra (detector : PrimaryDetector) (measured : PowerMeasurement) : PrimaryDetector :=
  { detector with correlator? := some measured.correlator }

/-- The peak of a measurement, and the detector that notes it. -/
def conclude (detector : PrimaryDetector) (measured : PowerMeasurement) :
    CorrelationPeak × PrimaryDetector :=
  (detector.withSpectra measured).observe measured.sector measured.powers

/-- A search measures, and then looks for the peak; where nothing is measured it changes nothing. -/
theorem find_eq (detector : PrimaryDetector) (meter : PowerMeter) (window : Array Sample)
    (sector : Nat) :
    find window sector meter detector =
      match detector.measure meter window sector with
      | .error fault => .error fault detector
      | .ok measured => .ok (detector.conclude measured).1 (detector.conclude measured).2 := by
  unfold find measure measureWith
  by_cases hsector : sector < 3
  · rw [dif_pos hsector, dif_pos hsector]
    by_cases hshort : window.size < detector.fftSize
    · rw [if_pos hshort, if_pos hshort]
    · rw [if_neg hshort, if_neg hshort]
      cases Correlator.sizeFor? window.size detector.fftSize with
      | none => rfl
      | some size =>
        dsimp only
        by_cases hwindow : window.size ≤ (detector.correlatorFor size).size
        · by_cases hlags : window.size - detector.fftSize + 1 ≤ (detector.correlatorFor size).size
          · rw [dif_pos ⟨hwindow, hlags⟩, if_pos hwindow, dif_pos hlags]
            rfl
          · rw [dif_neg fun hfit => hlags hfit.2, if_pos hwindow, dif_neg hlags]
        · rw [dif_neg fun hfit => hwindow hfit.1, if_neg hwindow]
  · rw [dif_neg hsector, dif_neg hsector]

theorem find_of_measure_error {fault : ReceiveError}
    (h : detector.measure meter window sector = .error fault) :
    find window sector meter detector = .error fault detector := by
  rw [find_eq, h]

theorem find_of_measure_ok (h : detector.measure meter window sector = .ok measured) :
    find window sector meter detector =
      .ok (detector.conclude measured).1 (detector.conclude measured).2 := by
  rw [find_eq, h]

/-- There is a power for each lag, by the spectra for some size. -/
theorem spec_of_measureWith {spectra : Nat → Correlator} {fftSize : Nat}
    (h : measureWith spectra fftSize meter window sector = .ok measured) :
    fftSize ≤ window.size ∧ measured.powers.size = window.size - fftSize + 1 ∧
      ∃ size, measured.correlator = spectra size := by
  unfold measureWith at h
  by_cases hsector : sector < 3
  · rw [dif_pos hsector] at h
    by_cases hshort : window.size < fftSize
    · rw [if_pos hshort] at h
      cases h
    · rw [if_neg hshort] at h
      cases hsize : Correlator.sizeFor? window.size fftSize with
      | none =>
        rw [hsize] at h
        cases h
      | some size =>
        rw [hsize] at h
        dsimp only at h
        by_cases hwindow : window.size ≤ (spectra size).size
        · rw [if_pos hwindow] at h
          by_cases hlags : window.size - fftSize + 1 ≤ (spectra size).size
          · rw [dif_pos hlags] at h
            cases h
            exact ⟨Nat.not_lt.mp hshort, Vector.size_toArray _, size, rfl⟩
          · rw [dif_neg hlags] at h
            cases h
        · rw [if_neg hwindow] at h
          cases h
  · rw [dif_neg hsector] at h
    cases h

/-! ## Averaging -/

/-- With the average over some searches, a new search goes on with the latest run or begins one. -/
theorem averaged_eq {searches : List AveragedSearch}
    (h : detector.average? = AveragedSearch.average? searches) (sector : Fin 3)
    (powers : Array Float32) :
    some (detector.averaged sector powers) =
      AveragedSearch.average? (⟨sector, powers, detector.alpha⟩ :: searches) := by
  let search : AveragedSearch := ⟨sector, powers, detector.alpha⟩
  unfold averaged
  rw [h]
  cases searches with
  | nil => rfl
  | cons latest earlier =>
    show some (if latest.sector = sector ∧
      (AveragedSearch.smoothed (AveragedSearch.run (latest :: earlier))).size = powers.size
        then _ else _) = _
    rw [AveragedSearch.size_smoothed_run]
    by_cases hsame : latest.sector = sector ∧ latest.powers.size = powers.size
    · have halike : latest.Alike search := hsame
      rw [if_pos hsame, AveragedSearch.average?, AveragedSearch.run_of_alike halike]
      rfl
    · have hnotAlike : ¬ latest.Alike search := hsame
      rw [if_neg hsame, AveragedSearch.average?, AveragedSearch.run_of_not_alike hnotAlike]
      rfl

theorem observe_of_lt (h : detector.alpha < 1) (sector : Fin 3) (powers : Array Float32) :
    detector.observe sector powers =
      (.ofPowers (detector.averaged sector powers).powers detector.fftSize,
        { detector with average? := some (detector.averaged sector powers) }) :=
  if_pos h

theorem observe_of_not_lt (h : ¬ detector.alpha < 1) (sector : Fin 3) (powers : Array Float32) :
    detector.observe sector powers = (.ofPowers powers detector.fftSize, detector) :=
  if_neg h

/-! ## Histories -/

/-- The detector after an event. -/
def perform (meter : PowerMeter) (detector : PrimaryDetector) : PrimaryEvent → PrimaryDetector
  | .find window sector => stateAfter (find window sector meter detector)
  | .setAlpha alpha => detector.setAlpha alpha
  | .reset => detector.reset

/-- The detector after a history. -/
def after (meter : PowerMeter) (start : PrimaryDetector) : List PrimaryEvent → PrimaryDetector
  | [] => start
  | event :: past => perform meter (after meter start past) event

/-- The share of new powers that a history leaves in force: the one that was set last. -/
def alphaAfter (start : PrimaryDetector) : List PrimaryEvent → Float32
  | [] => start.alpha
  | .setAlpha alpha :: _ => (start.setAlpha alpha).alpha
  | .find _ _ :: past => alphaAfter start past
  | .reset :: past => alphaAfter start past

/-- The searches of a history that were averaged since the last reset, the latest first, with what a
new detector measures in them. -/
def averagedSearches (meter : PowerMeter) (start : PrimaryDetector) :
    List PrimaryEvent → List AveragedSearch
  | [] => []
  | .setAlpha _ :: past => averagedSearches meter start past
  | .reset :: _ => []
  | .find window sector :: past =>
    match start.measure meter window sector with
    | .error _ => averagedSearches meter start past
    | .ok measured =>
      if alphaAfter start past < 1 then
        ⟨measured.sector, measured.powers, alphaAfter start past⟩ ::
          averagedSearches meter start past
      else averagedSearches meter start past

theorem perform_find_error {fault : ReceiveError}
    (h : detector.measure meter window sector = .error fault) :
    perform meter detector (.find window sector) = detector :=
  congrArg stateAfter (find_of_measure_error h)

theorem perform_find_ok (h : detector.measure meter window sector = .ok measured) :
    perform meter detector (.find window sector) = (detector.conclude measured).2 :=
  congrArg stateAfter (find_of_measure_ok h)

/-! ## What a detector keeps -/

/-- What a detector keeps of a history: its spectra are those of its own symbols, and its average is
that of the searches that were averaged. -/
structure Follows (meter : PowerMeter) (start : PrimaryDetector) (history : List PrimaryEvent)
    (detector : PrimaryDetector) : Prop where
  transform : detector.transform = start.transform
  fftSize : detector.fftSize = start.fftSize
  symbols : detector.symbols = start.symbols
  correlator : ∀ correlator, detector.correlator? = some correlator →
    correlator = .ofSymbols start.transform start.symbols correlator.size
  alpha : detector.alpha = alphaAfter start history
  average : detector.average? = AveragedSearch.average? (averagedSearches meter start history)

variable {history : List PrimaryEvent}

namespace Follows

variable (h : Follows meter start history detector)
include h

/-- The spectra at hand make no difference. -/
theorem correlatorFor_eq (size : Nat) :
    detector.correlatorFor size = .ofSymbols start.transform start.symbols size := by
  unfold correlatorFor
  cases hkept : detector.correlator? with
  | none => rw [h.transform, h.symbols]
  | some correlator =>
    by_cases hsize : correlator.size = size
    · have hown := h.correlator correlator hkept
      rw [hsize] at hown
      exact (if_pos hsize).trans hown
    · exact (if_neg hsize).trans (by rw [h.transform, h.symbols])

/-- What is measured is what a new detector measures. -/
theorem measure_eq (hnew : start.correlator? = none) :
    detector.measure meter window sector = start.measure meter window sector := by
  have hspectra : detector.correlatorFor = start.correlatorFor := funext fun size => by
    rw [h.correlatorFor_eq size, correlatorFor, hnew]
  rw [measure, measure, hspectra, h.fftSize]

/-- The spectra that a search worked with are those for its size. -/
theorem correlator_eq (hmeasured : detector.measure meter window sector = .ok measured) :
    measured.correlator = .ofSymbols start.transform start.symbols measured.correlator.size := by
  obtain ⟨-, -, size, hcorrelator⟩ := spec_of_measureWith hmeasured
  rw [hcorrelator, h.correlatorFor_eq size]
  rfl

/-! ### Steps -/

theorem setAlpha (alpha : Float32) :
    Follows meter start (.setAlpha alpha :: history) (detector.setAlpha alpha) where
  transform := h.transform
  fftSize := h.fftSize
  symbols := h.symbols
  correlator := h.correlator
  alpha := rfl
  average := h.average

theorem reset : Follows meter start (.reset :: history) detector.reset where
  transform := h.transform
  fftSize := h.fftSize
  symbols := h.symbols
  correlator := h.correlator
  alpha := h.alpha
  average := rfl

/-- The spectra that a measurement was taken with are kept. -/
theorem withSpectra (hmeasured : detector.measure meter window sector = .ok measured) :
    Follows meter start history (detector.withSpectra measured) where
  transform := h.transform
  fftSize := h.fftSize
  symbols := h.symbols
  correlator := fun kept hkept => by
    cases hkept
    exact h.correlator_eq hmeasured
  alpha := h.alpha
  average := h.average

/-- A search that is averaged is the latest one of its history. -/
theorem averaged_eq_average? (hlt : detector.alpha < 1)
    (hmeasured : start.measure meter window sector = .ok measured) :
    some (detector.averaged measured.sector measured.powers) =
      AveragedSearch.average? (averagedSearches meter start (.find window sector :: history)) := by
  have haverage := averaged_eq h.average measured.sector measured.powers
  rw [h.alpha] at hlt haverage
  rw [haverage, averagedSearches, hmeasured]
  exact congrArg AveragedSearch.average? (if_pos hlt).symm

theorem observe (hmeasured : start.measure meter window sector = .ok measured) :
    Follows meter start (.find window sector :: history)
      (detector.observe measured.sector measured.powers).2 := by
  by_cases hlt : detector.alpha < 1
  · rw [observe_of_lt hlt]
    exact { h with alpha := h.alpha, average := h.averaged_eq_average? hlt hmeasured }
  · rw [observe_of_not_lt hlt]
    refine { h with alpha := h.alpha, average := h.average.trans ?_ }
    rw [averagedSearches, hmeasured]
    exact congrArg AveragedSearch.average? (if_neg (h.alpha ▸ hlt)).symm

theorem find (hnew : start.correlator? = none) (window : Array Sample) (sector : Nat) :
    Follows meter start (.find window sector :: history)
      (perform meter detector (.find window sector)) := by
  have hmeasure : detector.measure meter window sector = start.measure meter window sector :=
    h.measure_eq hnew
  cases hmeasured : start.measure meter window sector with
  | error fault =>
    rw [perform_find_error (hmeasure.trans hmeasured)]
    refine { h with alpha := h.alpha, average := ?_ }
    rw [averagedSearches, hmeasured]
    exact h.average
  | ok measured =>
    rw [perform_find_ok (hmeasure.trans hmeasured)]
    exact (h.withSpectra (hmeasure.trans hmeasured)).observe hmeasured

end Follows

end PrimaryDetector

end LteReceiver
