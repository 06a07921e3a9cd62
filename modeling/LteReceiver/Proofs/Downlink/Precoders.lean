import LteReceiver.Proofs.Checked
import LteReceiver.Proofs.Downlink.Reports
import LteReceiver.Proofs.Downlink.Sinr

/-!
# Precoders over exact numbers

The choice of precoders, read over an ordered field.

* The best entry of a rank is the first of those with the largest SINR
  (`firstBest_codebookEntries`).
* Nothing is divided by zero: carried out with checked numbers, the choice comes to the same
  precoders and to the same SINR of every entry (`selectPrecoders_number`).
* The best entry for one layer is at least as good as the mean of all four, and that mean is the
  SINR of the whole energy of the channel (`energy_le_best`).

`precoders_of_estimate` puts them together (`SinrFacts`, `SelectionFacts`) for any channel with two
ports and two antennas, any noise and any number of resource elements.
-/

namespace LteReceiver

/-! ## Means over samples -/

section Means

variable {R : Type} [Field R] {elements : Nat}

/-- A mean as a quotient; that over no samples is zero, like any quotient by zero. -/
theorem sampleMean_eq (samples : List (ChannelMatrix R)) (quantity : ChannelMatrix R → R) :
    sampleMean samples quantity = (samples.map quantity).sum / samples.length := by
  have htotal : samples.foldl (fun total channel => total + quantity channel) ((0 : Nat) : R) =
      (samples.map quantity).sum := by
    rw [List.sum_eq_foldl, List.foldl_map, Nat.cast_zero]
  rw [sampleMean, htotal]
  cases samples with
  | nil => simp
  | cons channel rest => rfl

/-- The resource elements that are sampled: the first of every twelve, below a limit. -/
def sampledSet (elements limit : Nat) : Finset (Fin elements) :=
  Finset.univ.filter fun element => element.val < limit ∧ 12 ∣ element.val

theorem toFinset_sampledElements (limit : Nat) :
    (ChannelEstimate.sampledElements limit).toFinset = sampledSet elements limit := by
  ext element
  simp only [ChannelEstimate.sampledElements, sampledSet, List.mem_toFinset, List.mem_filter,
    List.mem_finRange, true_and, decide_eq_true_eq, Finset.mem_filter, Finset.mem_univ,
    Nat.dvd_iff_mod_eq_zero]
  rfl

/-- The mean over the samples of an estimate. -/
theorem sampleMean_samples (estimate : ChannelEstimate R 2 2 elements) (limit : Nat)
    (quantity : ChannelMatrix R → R) :
    sampleMean (estimate.samples limit) quantity =
      (∑ element ∈ sampledSet elements limit, quantity (estimate.matrixAt element)) /
        (sampledSet elements limit).card := by
  have hnodup : (ChannelEstimate.sampledElements limit : List (Fin elements)).Nodup :=
    (List.nodup_finRange elements).filter _
  rw [sampleMean_eq, ← toFinset_sampledElements, List.sum_toFinset _ hnodup,
    List.toFinset_card_of_nodup hnodup, ChannelEstimate.samples, List.map_map, List.length_map]
  rfl

end Means

/-! ## The best entry -/

section Best

variable {R : Type} [LinearOrder R] {values : Vector R 4} {best : Fin 4} {entries : List (Fin 4)}

/-- A search through entries in their order ends with the first of the best ones. -/
theorem foldl_laterBest (hsorted : (best :: entries).Pairwise (· ≤ ·)) :
    ∀ entry ∈ best :: entries,
      values.get entry ≤ values.get (entries.foldl (laterBest values) best) ∧
      (entry < entries.foldl (laterBest values) best →
        values.get entry < values.get (entries.foldl (laterBest values) best)) := by
  induction entries generalizing best with
  | nil =>
    intro entry hentry
    rw [List.mem_singleton.mp hentry]
    exact ⟨le_rfl, fun hlt => absurd hlt (lt_irrefl _)⟩
  | cons next rest ih =>
    obtain ⟨hbest, hrest⟩ := List.pairwise_cons.mp hsorted
    obtain ⟨hnext, hlater⟩ := List.pairwise_cons.mp hrest
    rw [List.foldl_cons]
    by_cases hbetter : values.get best < values.get next
    · have hchosen : laterBest values best next = next := if_pos hbetter
      rw [hchosen]
      have hends := ih hrest
      intro entry hentry
      rcases List.mem_cons.mp hentry with rfl | hmem
      · have hlt := hbetter.trans_le (hends next List.mem_cons_self).1
        exact ⟨hlt.le, fun _ => hlt⟩
      · exact hends entry hmem
    · have hchosen : laterBest values best next = best := if_neg hbetter
      rw [hchosen]
      have hends := ih (List.pairwise_cons.mpr
        ⟨fun entry hentry => hbest entry (List.mem_cons_of_mem _ hentry), hlater⟩)
      have hle := not_lt.mp hbetter
      intro entry hentry
      rcases List.mem_cons.mp hentry with rfl | hmem
      · exact hends entry List.mem_cons_self
      · rcases List.mem_cons.mp hmem with rfl | hin
        · -- an entry that was no better and comes before the choice is behind the one kept for it
          obtain ⟨hkept, hstrict⟩ := hends best List.mem_cons_self
          refine ⟨hle.trans hkept, fun hlt => hle.trans_lt (hstrict ?_)⟩
          exact (hbest entry List.mem_cons_self).trans_lt hlt
        · exact hends entry (List.mem_cons_of_mem _ hin)

/-- **The best entry of a rank is the first of those with the largest value.** -/
theorem firstBest_codebookEntries (values : Vector R 4) (rank : Fin 2) (entry : Fin 4)
    (hentry : entry.val < codebookSizes.get rank) :
    values.get entry ≤ values.get (firstBest values (codebookEntries rank)) ∧
      (entry < firstBest values (codebookEntries rank) →
        values.get entry < values.get (firstBest values (codebookEntries rank))) := by
  have hsorted : ∀ rank : Fin 2, (0 :: codebookEntries rank).Pairwise (· ≤ ·) := by decide
  have hmem : entry ∈ codebookEntries rank :=
    List.mem_filter.mpr ⟨List.mem_finRange entry, decide_eq_true hentry⟩
  exact foldl_laterBest (hsorted rank) entry (List.mem_cons_of_mem _ hmem)

end Best

/-! ## Divisions -/

section Divisions

variable {R S : Type} {ports antennas elements : Nat}

/-- An estimate with all its numbers changed alike. -/
def ChannelEstimate.map (change : R → S) (estimate : ChannelEstimate R ports antennas elements) :
    ChannelEstimate S ports antennas elements where
  gains := estimate.gains.map fun port => port.map fun antenna => antenna.map (Phasor.map change)
  noise := change estimate.noise

/-- A choice of precoders with every SINR changed alike. -/
def PrecoderSelection.map (change : R → S) (selection : PrecoderSelection R) :
    PrecoderSelection S where
  best := selection.best
  sinr := selection.sinr.map fun entries => entries.map change

/-- A channel matrix of checked numbers, none of them missing. -/
def checkedMatrix (channel : ChannelMatrix R) : ChannelMatrix (Checked R) :=
  channel.map fun port => port.map (Phasor.map .number)

theorem samples_map_number (estimate : ChannelEstimate R 2 2 elements) (limit : Nat) :
    (estimate.map Checked.number).samples limit = (estimate.samples limit).map checkedMatrix := by
  have hmatrix : ∀ element, (estimate.map Checked.number).matrixAt element =
      checkedMatrix (estimate.matrixAt element) := by
    intro element
    simp [ChannelEstimate.matrixAt, ChannelEstimate.map, checkedMatrix, Function.comp_def]
  rw [ChannelEstimate.samples, ChannelEstimate.samples, List.map_map]
  exact List.map_congr_left fun element _ => hmatrix element

variable [Field R] [LinearOrder R] [IsStrictOrderedRing R]

/-! ### SINR -/

omit [LinearOrder R] [IsStrictOrderedRing R] in
theorem oneLayerWeight_number (entry : Fin 4) :
    oneLayerWeight entry = (oneLayerWeight entry : Phasor R).map Checked.number :=
  match entry with
  | 0 => rfl
  | 1 => rfl
  | 2 => rfl
  | 3 => rfl

omit [LinearOrder R] [IsStrictOrderedRing R] in
theorem twoLayerWeight_number (entry : Fin 4) :
    twoLayerWeight entry = (twoLayerWeight entry : Phasor R).map Checked.number := by
  unfold twoLayerWeight
  split <;> rfl

theorem oneLayerSinr_number (channel : ChannelMatrix R) (entry : Fin 4) {noise : R}
    (hnoise : 0 < noise) :
    oneLayerSinr (checkedMatrix channel) entry (.number noise) =
      .number (oneLayerSinr channel entry noise) := by
  have hdivisor : ((2 : Nat) : R) * noise ≠ 0 := by positivity
  simp [oneLayerSinr, checkedMatrix, oneLayerWeight_number, Checked.number_div _ hdivisor,
    -Nat.cast_ofNat]

theorem layerGains_number (channel : ChannelMatrix R) (entry : Fin 4) (antenna : Fin 2) :
    layerGains (checkedMatrix channel) entry antenna =
      ((layerGains channel entry antenna).1.map .number,
        (layerGains channel entry antenna).2.map .number) := by
  have htwo : ((2 : Nat) : R) ≠ 0 := by positivity
  simp [layerGains, checkedMatrix, twoLayerWeight_number, Phasor.shrink_map_number _ htwo,
    -Nat.cast_ofNat]

theorem twoLayerSinr_number (channel : ChannelMatrix R) (entry : Fin 4) {noise : R}
    (hnoise : 0 < noise) :
    twoLayerSinr (checkedMatrix channel) entry (.number noise) =
      .number (twoLayerSinr channel entry noise) := by
  have htwo : ((2 : Nat) : R) ≠ 0 := by positivity
  obtain ⟨hfirst, hsecond⟩ := layerLoads_pos channel entry hnoise
  simp only [layerLoads, layerPowers, Fin.sum_univ_two] at hfirst hsecond
  simp [twoLayerSinr, layerGains_number, Phasor.shrink_map_number _ hnoise.ne',
    Checked.number_div _ hnoise.ne', Checked.number_div _ hfirst.ne',
    Checked.number_div _ hsecond.ne', Checked.number_div _ htwo, -Nat.cast_ofNat]

/-! ### Means and choices -/

theorem sampleMean_number (samples : List (ChannelMatrix R))
    {checked : ChannelMatrix (Checked R) → Checked R} {quantity : ChannelMatrix R → R}
    (h : ∀ channel, checked (checkedMatrix channel) = .number (quantity channel)) :
    sampleMean (samples.map checkedMatrix) checked = .number (sampleMean samples quantity) := by
  have htotal : ∀ start : R,
      (samples.map checkedMatrix).foldl (fun total channel => total + checked channel)
        (.number start) =
      .number (samples.foldl (fun total channel => total + quantity channel) start) := by
    intro start
    induction samples generalizing start with
    | nil => rfl
    | cons channel rest ih => simp only [List.map_cons, List.foldl_cons, h, Checked.number_add, ih]
  rw [sampleMean, sampleMean, Checked.natCast_eq, htotal]
  cases samples with
  | nil => rfl
  | cons channel rest =>
    have hcount : (((channel :: rest).length : Nat) : R) ≠ 0 := Nat.cast_ne_zero.mpr (by simp)
    simp only [List.map_cons, List.isEmpty_cons, Bool.false_eq_true, if_false, List.length_cons,
      List.length_map, Checked.natCast_eq]
    exact Checked.number_div _ hcount

theorem codebookSinr_number (samples : List (ChannelMatrix R)) {noise : R} (hnoise : 0 < noise) :
    codebookSinr (samples.map checkedMatrix) (.number noise) =
      (codebookSinr samples noise).map fun entries => entries.map .number := by
  have hone : ∀ entry, sampleMean (samples.map checkedMatrix)
      (oneLayerSinr · entry (.number noise)) =
        .number (sampleMean samples (oneLayerSinr · entry noise)) := fun entry =>
    sampleMean_number samples fun channel => oneLayerSinr_number channel entry hnoise
  have htwo : ∀ entry, sampleMean (samples.map checkedMatrix)
      (twoLayerSinr · entry (.number noise)) =
        .number (sampleMean samples (twoLayerSinr · entry noise)) := fun entry =>
    sampleMean_number samples fun channel => twoLayerSinr_number channel entry hnoise
  have hnone : ((0 : Nat) : Checked R) = .number ((0 : Nat) : R) := rfl
  simp only [codebookSinr, hone, htwo, hnone, ← apply_ite]
  simp [Function.comp_def]

theorem flooredNoise_number (noise : R) :
    flooredNoise (.number noise) = Checked.number (flooredNoise noise) := by
  have hmillion : ((1000000 : Nat) : R) ≠ 0 := by positivity
  have hfloor : (noiseFloor : Checked R) = .number noiseFloor := Checked.number_div _ hmillion
  unfold flooredNoise
  rw [hfloor, apply_ite Checked.number]
  exact if_congr (Checked.number_lt _ _) rfl rfl

omit [Field R] [IsStrictOrderedRing R] in
theorem firstBest_number (values : Vector R 4) (entries : List (Fin 4)) :
    firstBest (values.map Checked.number) entries = firstBest values entries := by
  have hstep : laterBest (values.map Checked.number) = laterBest values := by
    funext best entry
    have hvalue : ∀ entry : Fin 4, (values.map Checked.number)[entry] = .number values[entry] :=
      fun entry => Vector.getElem_map _ entry.isLt
    unfold laterBest
    rw [hvalue best, hvalue entry]
    exact if_congr (Checked.number_lt _ _) rfl rfl
  rw [firstBest, firstBest, hstep]

/-- **Nothing is divided by zero.** Where a quotient by zero would be missing, and all that is
computed from it, no SINR is missing, and the choice is the same. -/
theorem selectPrecoders_number (estimate : ChannelEstimate R 2 2 elements) (limit : Nat) :
    selectPrecoders (estimate.map Checked.number) limit =
      (selectPrecoders estimate limit).map (PrecoderSelection.map Checked.number) := by
  have hsinr : codebookSinr ((estimate.map Checked.number).samples limit)
      (flooredNoise (estimate.map Checked.number).noise) =
        (codebookSinr (estimate.samples limit) (flooredNoise estimate.noise)).map
          fun entries => entries.map .number := by
    rw [samples_map_number, ChannelEstimate.map, flooredNoise_number]
    exact codebookSinr_number _ (flooredNoise_pos _)
  simp only [selectPrecoders, hsinr, Except.map, PrecoderSelection.map, Fin.getElem_fin,
    Vector.getElem_map, firstBest_number]

end Divisions

/-! ## The choice -/

section Choice

variable {R : Type} [Field R] [LinearOrder R] [IsStrictOrderedRing R] {elements : Nat}

/-- The energy of a channel at a resource element, over both ports and both antennas. -/
def ChannelEstimate.energyAt (estimate : ChannelEstimate R 2 2 elements) (element : Fin elements) :
    R :=
  ∑ port, ∑ antenna, (((estimate.gains.get port).get antenna).get element).power

omit [LinearOrder R] [IsStrictOrderedRing R] in
theorem matrixEnergy_matrixAt (estimate : ChannelEstimate R 2 2 elements)
    (element : Fin elements) :
    matrixEnergy (estimate.matrixAt element) = estimate.energyAt element := by
  have hgain : ∀ port antenna, ((estimate.matrixAt element).get port).get antenna =
      ((estimate.gains.get port).get antenna).get element := by
    intro port antenna
    show (estimate.gains.map fun port => port.map fun antenna => antenna[element])[port][antenna] =
      estimate.gains[port][antenna][element]
    simp only [Fin.getElem_fin, Vector.getElem_map]
  simp only [matrixEnergy, ChannelEstimate.energyAt, hgain]

omit [LinearOrder R] [IsStrictOrderedRing R] in
theorem get_codebookSinr_one (samples : List (ChannelMatrix R)) (noise : R) (entry : Fin 4) :
    ((codebookSinr samples noise).get 0).get entry =
      sampleMean samples (oneLayerSinr · entry noise) :=
  Vector.getElem_ofFn entry.isLt

omit [LinearOrder R] [IsStrictOrderedRing R] in
theorem get_codebookSinr_two (samples : List (ChannelMatrix R)) (noise : R) (entry : Fin 4) :
    ((codebookSinr samples noise).get 1).get entry =
      if entry.val < 2 then sampleMean samples (twoLayerSinr · entry noise) else 0 := by
  rw [← Nat.cast_zero]
  exact Vector.getElem_ofFn entry.isLt

theorem sampleMean_nonneg {quantity : ChannelMatrix R → R} (h : ∀ channel, 0 ≤ quantity channel)
    (samples : List (ChannelMatrix R)) : 0 ≤ sampleMean samples quantity := by
  rw [sampleMean_eq]
  refine div_nonneg (List.sum_nonneg ?_) (Nat.cast_nonneg _)
  intro value hvalue
  obtain ⟨channel, -, rfl⟩ := List.mem_map.mp hvalue
  exact h channel

/-- **No SINR is below zero.** -/
theorem codebookSinr_nonneg (samples : List (ChannelMatrix R)) {noise : R} (hnoise : 0 < noise)
    (rank : Fin 2) (entry : Fin 4) : 0 ≤ ((codebookSinr samples noise).get rank).get entry := by
  match rank with
  | 0 =>
    rw [get_codebookSinr_one]
    exact sampleMean_nonneg (fun channel => oneLayerSinr_nonneg channel entry hnoise) samples
  | 1 =>
    rw [get_codebookSinr_two]
    split
    · exact sampleMean_nonneg (fun channel => twoLayerSinr_nonneg channel entry hnoise) samples
    · exact le_rfl

omit [LinearOrder R] [IsStrictOrderedRing R] in
/-- The entries for one layer share the mean energy of the channel. -/
theorem sum_codebookSinr (estimate : ChannelEstimate R 2 2 elements) (limit : Nat) (noise : R) :
    ∑ entry, ((codebookSinr (estimate.samples limit) noise).get 0).get entry =
      4 * ((∑ element ∈ sampledSet elements limit, estimate.energyAt element / (2 * noise)) /
        (sampledSet elements limit).card) := by
  simp only [get_codebookSinr_one, sampleMean_samples]
  rw [← Finset.sum_div, Finset.sum_comm]
  simp only [sum_oneLayerSinr, matrixEnergy_matrixAt]
  rw [← Finset.mul_sum, mul_div_assoc]

/-- **The best entry for one layer is at least as good as all of the energy**, shared among four. -/
theorem energy_le_best (estimate : ChannelEstimate R 2 2 elements) (limit : Nat) (noise : R) :
    let values := (codebookSinr (estimate.samples limit) noise).get 0
    (∑ element ∈ sampledSet elements limit, estimate.energyAt element / (2 * noise)) /
      (sampledSet elements limit).card ≤ values.get (firstBest values (codebookEntries 0)) := by
  intro values
  have hsum : ∑ entry, values.get entry = 4 * _ := sum_codebookSinr estimate limit noise
  have hle : ∑ entry, values.get entry ≤
      ∑ _entry : Fin 4, values.get (firstBest values (codebookEntries 0)) :=
    Finset.sum_le_sum fun entry _ => (firstBest_codebookEntries values 0 entry entry.isLt).1
  rw [hsum, Finset.sum_const, Finset.card_univ, Fintype.card_fin, nsmul_eq_mul, Nat.cast_ofNat]
    at hle
  exact le_of_mul_le_mul_left hle (by positivity)

end Choice

section Exact

variable {R : Type} [Field R] [LinearOrder R] [IsStrictOrderedRing R]

/-- The SINR at one resource element: the divisors on the way are above zero, that of two layers is
the mean of those of the layers, and none is below zero. -/
structure SinrFacts (channel : ChannelMatrix R) (entry : Fin 4) (noise : R) : Prop where
  loads_pos : 0 < (layerLoads channel entry noise).1 ∧ 0 < (layerLoads channel entry noise).2
  layers_nonneg :
    0 ≤ (layerSinrs channel entry noise).1 ∧ 0 ≤ (layerSinrs channel entry noise).2
  twoLayerSinr_eq : twoLayerSinr channel entry noise =
    ((layerSinrs channel entry noise).1 + (layerSinrs channel entry noise).2) / 2
  oneLayerSinr_nonneg : 0 ≤ oneLayerSinr channel entry noise
  twoLayerSinr_nonneg : 0 ≤ twoLayerSinr channel entry noise

theorem sinrFacts (channel : ChannelMatrix R) (entry : Fin 4) {noise : R} (hnoise : 0 < noise) :
    SinrFacts channel entry noise where
  loads_pos := layerLoads_pos channel entry hnoise
  layers_nonneg := layerSinrs_nonneg channel entry hnoise
  twoLayerSinr_eq := twoLayerSinr_eq channel entry noise
  oneLayerSinr_nonneg := oneLayerSinr_nonneg channel entry hnoise
  twoLayerSinr_nonneg := twoLayerSinr_nonneg channel entry hnoise

/-- What is selected from an estimate at a noise: the table of SINR, none below zero, and the best
entry of each rank. -/
structure SelectionFacts {elements : Nat} (estimate : ChannelEstimate R 2 2 elements)
    (limit : Nat) (noise : R) (selection : PrecoderSelection R) : Prop where
  selected : selectPrecoders estimate limit = .ok selection
  /-- With checked numbers it is the same, so nothing was divided by zero. -/
  checked : selectPrecoders (estimate.map Checked.number) limit =
    .ok (selection.map Checked.number)
  oneLayer : ∀ entry, (selection.sinr.get 0).get entry =
    sampleMean (estimate.samples limit) (oneLayerSinr · entry noise)
  twoLayers : ∀ entry, entry.val < 2 → (selection.sinr.get 1).get entry =
    sampleMean (estimate.samples limit) (twoLayerSinr · entry noise)
  nonneg : ∀ rank entry, 0 ≤ (selection.sinr.get rank).get entry
  /-- The best entry of a rank is the first of those with the largest SINR in its codebook. -/
  best : ∀ rank,
    let values := selection.sinr.get rank
    let best := selection.best.get rank
    best.val < codebookSizes.get rank ∧ ∀ entry, entry.val < codebookSizes.get rank →
      values.get entry ≤ values.get best ∧ (entry < best → values.get entry < values.get best)
  energy_le : (∑ element ∈ sampledSet elements limit, estimate.energyAt element / (2 * noise)) /
    (sampledSet elements limit).card ≤ (selection.sinr.get 0).get (selection.best.get 0)

theorem exists_selection {elements : Nat} (estimate : ChannelEstimate R 2 2 elements)
    (limit : Nat) :
    ∃ selection, SelectionFacts estimate limit (flooredNoise estimate.noise) selection := by
  let noise := flooredNoise estimate.noise
  have hnoise : 0 < noise := flooredNoise_pos estimate.noise
  let sinr := codebookSinr (estimate.samples limit) noise
  let selection : PrecoderSelection R :=
    ⟨.ofFn fun rank => firstBest sinr[rank] (codebookEntries rank), sinr⟩
  have hselection : selectPrecoders estimate limit = .ok selection := rfl
  have hbest : ∀ rank, selection.best.get rank =
      firstBest (sinr.get rank) (codebookEntries rank) := fun rank =>
    Vector.getElem_ofFn rank.isLt
  exact ⟨selection,
    { selected := hselection
      checked := by
        rw [selectPrecoders_number, hselection]
        rfl
      oneLayer := get_codebookSinr_one _ noise
      twoLayers := fun entry hentry =>
        (get_codebookSinr_two _ noise entry).trans (if_pos hentry)
      nonneg := codebookSinr_nonneg _ hnoise
      best := fun rank => by
        refine ⟨best_of_selectPrecoders hselection rank, fun entry hentry => ?_⟩
        rw [hbest rank]
        exact firstBest_codebookEntries (sinr.get rank) rank entry hentry
      energy_le := by
        rw [hbest 0]
        exact energy_le_best estimate limit noise }⟩

/--
**The choice of precoders over exact numbers.**

Over any ordered field, for every channel with two ports and two antennas, every noise and every
number of resource elements, there is a choice. The noise that is counted with, the divisors for two
layers and the number of samples, if there are any, are above zero, and carried out with checked
numbers the choice is the same: nothing was divided by zero. The SINR for two layers is the mean of
those of the layers, and the table holds the means of both kinds over the samples. No SINR is below
zero, neither at a resource element nor in the mean. The best entry of a rank is the first of those
with the largest SINR in its codebook. For one layer its SINR is no less than the mean over the
samples of the whole energy of the channel over twice the noise, which is zero where there are no
samples.
-/
theorem precoders_of_estimate {elements : Nat} (estimate : ChannelEstimate R 2 2 elements)
    (limit : Nat) :
    let noise := max estimate.noise (1 / 1000000)
    let sampled := sampledSet elements limit
    0 < 2 * noise ∧ (sampled.Nonempty → 0 < (sampled.card : R)) ∧
    (∀ channel entry, SinrFacts channel entry noise) ∧
    ∃ selection, SelectionFacts estimate limit noise selection := by
  intro noise sampled
  have hfloored : flooredNoise estimate.noise = noise := flooredNoise_eq estimate.noise
  have hnoise : 0 < noise := hfloored ▸ flooredNoise_pos estimate.noise
  exact ⟨by positivity, fun hsome => Nat.cast_pos.mpr hsome.card_pos,
    fun channel entry => sinrFacts channel entry hnoise, hfloored ▸ exists_selection estimate limit⟩

end Exact

/-- A channel whose second port lags behind the first by a quarter of a turn at both antennas. -/
def laggingPort : ChannelEstimate ℚ 2 2 13 where
  gains := #v[.replicate 2 (.replicate 13 ⟨1, 0⟩), .replicate 2 (.replicate 13 ⟨0, 1⟩)]
  noise := 1 / 10

/-- Two of its elements are sampled. The entry for one layer that turns the second port back is the
best one. The energy of the channel is 4 and twice the noise a fifth, so its SINR is at least 20. -/
theorem precoders_of_estimate_laggingPort :
    (sampledSet 13 13).Nonempty ∧ (0 : ℚ) < (sampledSet 13 13).card ∧
    ∃ selection, selectPrecoders laggingPort 13 = .ok selection ∧
      selectPrecoders (laggingPort.map Checked.number) 13 = .ok (selection.map Checked.number) ∧
      selection.best.get 0 = 3 ∧ (selection.sinr.get 0).get 2 < (selection.sinr.get 0).get 3 ∧
      20 ≤ (selection.sinr.get 0).get 3 := by
  have hsome : (sampledSet 13 13).Nonempty := ⟨0, by decide⟩
  obtain ⟨-, hcount, -, selection, hchosen⟩ := precoders_of_estimate laggingPort 13
  have hthree : selection.best.get 0 = 3 := by
    have hentry : (selectPrecoders laggingPort 13).toOption.map (·.best.get 0) = some 3 := by
      decide +kernel
    rw [hchosen.selected] at hentry
    exact Option.some.inj hentry
  have htwenty : (∑ element ∈ sampledSet 13 13,
      laggingPort.energyAt element / (2 * max laggingPort.noise (1 / 1000000))) /
        (sampledSet 13 13).card = 20 := by decide +kernel
  obtain ⟨-, hearlier⟩ := (hchosen.best 0).2 2 (by decide)
  have henergy := hchosen.energy_le
  rw [hthree] at hearlier henergy
  rw [htwenty] at henergy
  exact ⟨hsome, hcount hsome, selection, hchosen.selected, hchosen.checked, hthree,
    hearlier (by decide), henergy⟩

end LteReceiver
