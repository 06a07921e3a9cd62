import LteReceiver.Proofs.Sync.Bins
import LteReceiver.Proofs.Sync.TransformSize

/-!
# The peak of a correlation

Whatever the correlation powers are, a peak is one of the lags (`strongestLag_lt`), and a search for
the primary symbol in a window that has room for it succeeds: the spectra have room for the window,
and the symbol it answers with lies in the window (`PrimaryDetector.exists_find`). Likewise, the
bins of a synchronization sequence lie in every transform that synchronization works with
(`binsFit_of_isFftSize`).
-/

namespace LteReceiver

/-! ## The strongest lag -/

theorem strongerLag_eq_or (powers : Array Float32) (best : Nat × Float32) (lag : Nat) :
    (strongerLag powers best lag).1 = best.1 ∨ (strongerLag powers best lag).1 = lag := by
  by_cases h : best.2 < powers.getD lag 0
  · exact .inr (congrArg Prod.fst (if_pos h))
  · exact .inl (congrArg Prod.fst (if_neg h))

/-- The strongest lag is one of the lags, whatever their powers are. -/
theorem strongestLag_lt {powers : Array Float32} (h : 0 < powers.size) :
    (strongestLag powers).1 < powers.size := by
  rcases choice_mem Prod.fst (strongerLag powers) (strongerLag_eq_or powers)
    (List.range powers.size) (0, 0) with hzero | hmem
  · exact (congrArg (· < powers.size) hzero).mpr h
  · exact List.mem_range.mp hmem

theorem CorrelationPeak.position_ofPowers {powers : Array Float32} (h : 0 < powers.size)
    (fftSize : Nat) : fftSize ≤ (ofPowers powers fftSize).position ∧
      (ofPowers powers fftSize).position < powers.size + fftSize := by
  have hlag := strongestLag_lt h
  simp only [ofPowers]
  omega

/-! ## The detector -/

namespace PrimaryDetector

variable (detector : PrimaryDetector) (sector : Fin 3)

theorem size_averaged (powers : Array Float32) :
    (detector.averaged sector powers).powers.size = powers.size := by
  unfold averaged
  split
  · split
    · rename_i hsame
      simp only [Array.size_zipWith, hsame.2, Nat.min_self]
    · rfl
  · rfl

theorem observe_spec (powers : Array Float32) (h : 0 < powers.size) :
    detector.fftSize ≤ (detector.observe sector powers).1.position ∧
      (detector.observe sector powers).1.position < powers.size + detector.fftSize ∧
      (detector.observe sector powers).2.fftSize = detector.fftSize := by
  unfold observe
  split
  · have hsize := detector.size_averaged sector powers
    obtain ⟨hfirst, hlast⟩ := CorrelationPeak.position_ofPowers (hsize ▸ h) detector.fftSize
    exact ⟨hfirst, hsize ▸ hlast, rfl⟩
  · obtain ⟨hfirst, hlast⟩ := CorrelationPeak.position_ofPowers h detector.fftSize
    exact ⟨hfirst, hlast, rfl⟩

/-- **A symbol is found in every window that has room for it**, inside that window. -/
theorem exists_find (window : Array Sample) (powers : PowerMeter)
    (hpositive : 0 < detector.fftSize) (hroom : detector.fftSize ≤ window.size)
    (hsize : window.size + detector.fftSize ≤ 2 ^ 31) :
    ∃ peak after, find window sector powers detector = .ok peak after ∧
      detector.fftSize ≤ peak.position ∧ peak.position ≤ window.size ∧
      after.fftSize = detector.fftSize := by
  obtain ⟨size, hfor, hle⟩ := Correlator.exists_sizeFor? hsize
  have hcorrelator := detector.size_correlatorFor size
  have hfit : window.size ≤ (detector.correlatorFor size).size ∧
      window.size - detector.fftSize + 1 ≤ (detector.correlatorFor size).size := by
    omega
  -- whatever was measured, there is one power for each lag
  obtain ⟨hfirst, hlast, hafter⟩ :=
    { detector with correlator? := some (detector.correlatorFor size) }.observe_spec sector
      (powers (detector.correlatorFor size) window sector _ hfit.2).toArray
      (by rw [Vector.size_toArray]; omega)
  refine ⟨_, _, ?_, hfirst, ?_, hafter⟩
  · rw [find, dif_pos sector.isLt, if_neg (by omega)]
    simp only [hfor]
    rw [dif_pos hfit]
  · rw [Vector.size_toArray] at hlast
    simp only at hlast
    omega

end PrimaryDetector

/-! ## Bins -/

/-- The bins of a synchronization sequence lie inside every transform that synchronization works
with. -/
theorem binsFit_of_isFftSize {size : Nat} (h : isFftSize size = true) :
    binsFit syncLength size = true :=
  binsFit_of_le (Nat.le_trans (by decide) (le_of_isFftSize h).1) syncLength

end LteReceiver
