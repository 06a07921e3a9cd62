import LteReceiver.Proofs.Control.SpaceHash
import Mathlib.Algebra.Order.BigOperators.Group.Finset
import Mathlib.Data.List.Sort
import Mathlib.Tactic.Ring

/-!
# The places of a search space

Every place that a terminal or a broadcast message is given starts at a multiple of its level and
ends inside the control region (`DciLocation.LiesIn`). So the check that a place fits, and the bound
on the length of a list, never leave one out (`ueLocations_eq`, `commonLocations_eq`). The places of
one level are different as long as the region has as many positions for it as there are candidates,
which is so for all levels from sixteen elements on (`nodup_ueLocations`).
-/

namespace LteReceiver

/-! ## Places of one level -/

/-- A place starts at a multiple of its level and ends inside a region. -/
structure DciLocation.LiesIn (place : DciLocation) (nofCce : Nat) : Prop where
  aligned : place.aggregationLevel ∣ place.firstCce
  ends : place.firstCce + place.aggregationLevel ≤ nofCce

theorem DciLocation.LiesIn.mono {place : DciLocation} {nofCce larger : Nat}
    (h : place.LiesIn nofCce) (hle : nofCce ≤ larger) : place.LiesIn larger :=
  ⟨h.aligned, h.ends.trans hle⟩

theorem DciLocation.LiesIn.fits {place : DciLocation} {nofCce : Nat} (h : place.LiesIn nofCce) :
    place.fits nofCce = true :=
  decide_eq_true h.ends

section OneLevel

variable {nofCce hash logLevel level : Nat} {place : DciLocation}

/-- A position that turns over at the end of the region never reaches past it. -/
theorem mul_mod_add_le (hpos : 0 < level) (hle : level ≤ nofCce) (position : Nat) :
    level * (position % (nofCce / level)) + level ≤ nofCce :=
  calc
    level * (position % (nofCce / level)) + level
      = level * (position % (nofCce / level) + 1) := by ring
    _ ≤ level * (nofCce / level) :=
      Nat.mul_le_mul_left level (Nat.mod_lt position (Nat.div_pos hle hpos))
    _ ≤ nofCce := Nat.mul_div_le nofCce level

theorem pow_logLevel_pos (logLevel : Nat) : 0 < Nat.pow 2 logLevel :=
  Nat.pow_pos Nat.zero_lt_two

theorem ueLevel_eq (nofCce hash logLevel : Nat) :
    ueLevel nofCce hash logLevel =
      if Nat.pow 2 logLevel ≤ nofCce then
        (List.range (ueCandidates logLevel)).map fun m =>
          ⟨Nat.pow 2 logLevel * ((hash + m) % (nofCce / Nat.pow 2 logLevel)), logLevel⟩
      else [] := by
  rw [ueLevel, ← ite_not]
  simp only [Nat.not_lt]

theorem mem_ueLevel :
    place ∈ ueLevel nofCce hash logLevel ↔
      Nat.pow 2 logLevel ≤ nofCce ∧ ∃ m < ueCandidates logLevel,
        place = ⟨Nat.pow 2 logLevel * ((hash + m) % (nofCce / Nat.pow 2 logLevel)), logLevel⟩ := by
  rw [ueLevel_eq]
  split
  next hlevel => simp only [List.mem_map, List.mem_range, hlevel, true_and, eq_comm]
  next hlevel => exact iff_of_false List.not_mem_nil fun h => hlevel h.1

theorem logLevel_of_mem_ueLevel (h : place ∈ ueLevel nofCce hash logLevel) :
    place.logLevel = logLevel := by
  obtain ⟨-, m, -, rfl⟩ := mem_ueLevel.mp h
  rfl

theorem liesIn_of_mem_ueLevel (h : place ∈ ueLevel nofCce hash logLevel) :
    place.LiesIn nofCce := by
  obtain ⟨hle, m, -, rfl⟩ := mem_ueLevel.mp h
  exact ⟨Nat.dvd_mul_right _ _, mul_mod_add_le (pow_logLevel_pos logLevel) hle (hash + m)⟩

theorem length_ueLevel_le (nofCce hash logLevel : Nat) :
    (ueLevel nofCce hash logLevel).length ≤ ueCandidates logLevel := by
  rw [ueLevel]
  split
  · exact Nat.zero_le _
  · rw [List.length_map, List.length_range]

/-- Consecutive positions are different until they have turned over once. -/
theorem nodup_ueLevel (hroom : ueCandidates logLevel ≤ nofCce / Nat.pow 2 logLevel) :
    (ueLevel nofCce hash logLevel).Nodup := by
  rw [ueLevel]
  split
  · exact List.nodup_nil
  · refine List.nodup_range.map_on fun i hi j hj hij => ?_
    have hscaled : Nat.pow 2 logLevel * ((hash + i) % (nofCce / Nat.pow 2 logLevel)) =
        Nat.pow 2 logLevel * ((hash + j) % (nofCce / Nat.pow 2 logLevel)) :=
      congrArg DciLocation.firstCce hij
    have hturned : hash + i ≡ hash + j [MOD nofCce / Nat.pow 2 logLevel] :=
      Nat.eq_of_mul_eq_mul_left (pow_logLevel_pos logLevel) hscaled
    exact (Nat.ModEq.add_left_cancel' hash hturned).eq_of_lt_of_lt
      ((List.mem_range.mp hi).trans_le hroom) ((List.mem_range.mp hj).trans_le hroom)

/-- The multiples of a level that leave room for it are those it is multiplied out to. -/
theorem map_mul_range_div (hpos : 0 < level) (size : Nat) :
    (List.range (size / level)).map (level * ·) =
      (List.range size).filter fun first => level ∣ first ∧ first + level ≤ size := by
  have hsorted : ((List.range (size / level)).map (level * ·)).SortedLT :=
    (List.pairwise_lt_range.map _ fun i j hij => Nat.mul_lt_mul_of_pos_left hij hpos).sortedLT
  refine hsorted.eq_of_mem_iff (List.pairwise_lt_range.filter _).sortedLT fun first => ?_
  simp only [List.mem_map, List.mem_filter, List.mem_range, decide_eq_true_eq]
  constructor
  · rintro ⟨i, hi, rfl⟩
    have hend : level * (i + 1) ≤ size :=
      (Nat.mul_le_mul_left level hi).trans (Nat.mul_div_le size level)
    rw [Nat.mul_succ] at hend
    exact ⟨by omega, Nat.dvd_mul_right level i, hend⟩
  · rintro ⟨-, ⟨i, rfl⟩, hend⟩
    rw [← Nat.mul_succ, Nat.mul_comm] at hend
    exact ⟨i, (Nat.le_div_iff_mul_le hpos).mpr hend, rfl⟩

theorem commonLevel_eq (nofCce logLevel : Nat) :
    commonLevel nofCce logLevel =
      ((List.range (min nofCce 16)).filter fun first =>
        Nat.pow 2 logLevel ∣ first ∧ first + Nat.pow 2 logLevel ≤ min nofCce 16).map
        fun first => ⟨first, logLevel⟩ := by
  rw [← map_mul_range_div (pow_logLevel_pos logLevel), List.map_map]
  rfl

theorem logLevel_of_mem_commonLevel (h : place ∈ commonLevel nofCce logLevel) :
    place.logLevel = logLevel := by
  obtain ⟨i, -, rfl⟩ := List.mem_map.mp h
  rfl

theorem liesIn_of_mem_commonLevel (h : place ∈ commonLevel nofCce logLevel) :
    place.LiesIn (min nofCce 16) := by
  rw [commonLevel_eq] at h
  obtain ⟨first, hfirst, rfl⟩ := List.mem_map.mp h
  obtain ⟨haligned, hends⟩ := of_decide_eq_true (List.mem_filter.mp hfirst).2
  exact ⟨haligned, hends⟩

theorem nodup_commonLevel (nofCce logLevel : Nat) : (commonLevel nofCce logLevel).Nodup := by
  rw [commonLevel_eq]
  exact (List.nodup_range.filter _).map fun _ _ h => congrArg DciLocation.firstCce h

end OneLevel

/-! ## The lists -/

section Lists

variable {nofCce : Nat} {place : DciLocation} {levels : List Nat}
  {places : Nat → List DciLocation}

theorem liesIn_of_mem_flatMap
    (hlies : ∀ logLevel, ∀ place ∈ places logLevel, place.LiesIn nofCce)
    (h : place ∈ levels.flatMap places) : place.LiesIn nofCce := by
  obtain ⟨logLevel, -, hlevel⟩ := List.mem_flatMap.mp h
  exact hlies logLevel place hlevel

/-- Lists of different levels have no place in common. -/
theorem nodup_flatMap_levels (hlevels : levels.Nodup)
    (hlevel : ∀ logLevel, ∀ place ∈ places logLevel, place.logLevel = logLevel)
    (hnodup : ∀ logLevel ∈ levels, (places logLevel).Nodup) : (levels.flatMap places).Nodup := by
  refine List.nodup_flatMap.mpr ⟨hnodup, hlevels.imp fun hne => List.disjoint_left.mpr ?_⟩
  intro place hplace hother
  exact hne ((hlevel _ place hplace).symm.trans (hlevel _ place hother))

/-- Of places that lie in the region, and are not too many, none is left out. -/
theorem take_filter_fits {all : List DciLocation} {most : Nat}
    (hlies : ∀ place ∈ all, place.LiesIn nofCce) (hlength : all.length ≤ most) :
    (all.filter (·.fits nofCce)).take most = all := by
  have hfits : all.filter (·.fits nofCce) = all :=
    List.filter_eq_self.mpr fun place hplace => (hlies place hplace).fits
  rw [hfits, List.take_of_length_le hlength]

/-- **No place of a terminal is left out**, neither as one that does not fit nor as one too many. -/
theorem ueLocations_eq (nofCce subframe : Nat) (rnti : Rnti) :
    ueLocations nofCce subframe rnti =
      [3, 2, 1, 0].flatMap (ueLevel nofCce (spaceHash rnti subframe).toNat) := by
  have hlength : ([3, 2, 1, 0].flatMap (ueLevel nofCce (spaceHash rnti subframe).toNat)).length ≤
      maxUeCandidates := by
    have h3 := length_ueLevel_le nofCce (spaceHash rnti subframe).toNat 3
    have h2 := length_ueLevel_le nofCce (spaceHash rnti subframe).toNat 2
    have h1 := length_ueLevel_le nofCce (spaceHash rnti subframe).toNat 1
    have h0 := length_ueLevel_le nofCce (spaceHash rnti subframe).toNat 0
    simp only [List.flatMap_cons, List.flatMap_nil, List.length_append, List.length_nil,
      ueCandidates, maxUeCandidates] at h3 h2 h1 h0 ⊢
    omega
  simp only [ueLocations, spaceHash_mod_hashPeriod]
  exact take_filter_fits
    (fun _ => liesIn_of_mem_flatMap fun _ _ => liesIn_of_mem_ueLevel) hlength

theorem liesIn_of_mem_ueLocations {subframe : Nat} {rnti : Rnti}
    (h : place ∈ ueLocations nofCce subframe rnti) : place.LiesIn nofCce := by
  rw [ueLocations_eq] at h
  exact liesIn_of_mem_flatMap (fun _ _ => liesIn_of_mem_ueLevel) h

/-- Sixteen elements have room for the candidates of every level. -/
theorem nodup_ueLocations (h : 16 ≤ nofCce) (subframe : Nat) (rnti : Rnti) :
    (ueLocations nofCce subframe rnti).Nodup := by
  rw [ueLocations_eq]
  refine nodup_flatMap_levels (by decide) (fun _ _ => logLevel_of_mem_ueLevel)
    fun logLevel hmem => ?_
  have hroom : ueCandidates logLevel * Nat.pow 2 logLevel ≤ 16 := by
    have hall : ∀ l ∈ [3, 2, 1, 0], ueCandidates l * Nat.pow 2 l ≤ 16 := by decide
    exact hall logLevel hmem
  exact nodup_ueLevel ((Nat.le_div_iff_mul_le (pow_logLevel_pos logLevel)).mpr (hroom.trans h))

/-- No place of a broadcast message is left out. -/
theorem commonLocations_eq (nofCce : Nat) :
    commonLocations nofCce = [3, 2].flatMap (commonLevel nofCce) := by
  have hlength : ([3, 2].flatMap (commonLevel nofCce)).length ≤ maxCommonCandidates := by
    have h3 : min nofCce 16 / Nat.pow 2 3 ≤ 2 := Nat.div_le_of_le_mul (Nat.min_le_right nofCce 16)
    have h2 : min nofCce 16 / Nat.pow 2 2 ≤ 4 := Nat.div_le_of_le_mul (Nat.min_le_right nofCce 16)
    simp only [List.flatMap_cons, List.flatMap_nil, List.length_append, List.length_nil,
      commonLevel, List.length_map, List.length_range, maxCommonCandidates]
    omega
  refine take_filter_fits (fun place hplace => ?_) hlength
  exact (liesIn_of_mem_flatMap (fun _ _ => liesIn_of_mem_commonLevel) hplace).mono
    (Nat.min_le_left nofCce 16)

theorem liesIn_of_mem_commonLocations (h : place ∈ commonLocations nofCce) :
    place.LiesIn (min nofCce 16) := by
  rw [commonLocations_eq] at h
  exact liesIn_of_mem_flatMap (fun _ _ => liesIn_of_mem_commonLevel) h

theorem nodup_commonLocations (nofCce : Nat) : (commonLocations nofCce).Nodup := by
  rw [commonLocations_eq]
  exact nodup_flatMap_levels (by decide) (fun _ _ => logLevel_of_mem_commonLevel)
    fun logLevel _ => nodup_commonLevel nofCce logLevel

end Lists

/-! ## The control region of a cell -/

section ControlRegion

variable {cell : CellConfig} {cfi : Nat}

/-- Groups of the first control symbols, each counted once. -/
theorem controlRegs_eq (cell : CellConfig) (hcfi : cfi ≤ 3) :
    cell.controlRegs cfi =
      ∑ symbol ∈ Finset.range cfi, regsPerPrb symbol cell.nofPorts * cell.nofPrb := by
  have hmin : min cfi maxCfi = cfi := Nat.min_eq_left hcfi
  have hsum : ∑ symbol ∈ Finset.range cfi, regsPerPrb symbol cell.nofPorts * cell.nofPrb =
      ((List.range cfi).map fun symbol => regsPerPrb symbol cell.nofPorts * cell.nofPrb).sum := rfl
  rw [CellConfig.controlRegs, hmin, hsum, List.sum_eq_foldr, List.foldr_map]

theorem regsPerPrb_le (symbol nofPorts : Nat) : regsPerPrb symbol nofPorts ≤ 3 := by
  unfold regsPerPrb
  split
  · omega
  · split <;> omega

/-- The count of the groups stays far below the range of a 32-bit word. -/
theorem controlRegs_le (hcheck : cell.check = .ok ()) (hcfi : cfi ≤ 3) :
    ∑ symbol ∈ Finset.range cfi, regsPerPrb symbol cell.nofPorts * cell.nofPrb ≤
      3 * (3 * maxPrb) := by
  have hprb : cell.nofPrb ≤ maxPrb := by
    by_contra hlarge
    rw [CellConfig.check, if_pos (.inr (Nat.not_le.mp hlarge))] at hcheck
    cases hcheck
  calc
    _ ≤ (Finset.range cfi).card • (3 * maxPrb) :=
      Finset.sum_le_card_nsmul _ _ _ fun symbol _ =>
        Nat.mul_le_mul (regsPerPrb_le symbol cell.nofPorts) hprb
    _ = cfi * (3 * maxPrb) := by rw [Finset.card_range, smul_eq_mul]
    _ ≤ 3 * (3 * maxPrb) := Nat.mul_le_mul_right _ hcfi

/-- What a place takes is left over by the format indicator and the acknowledgements. -/
theorem regs_of_liesIn {place : DciLocation} (h : place.LiesIn (cell.cceCount cfi)) :
    9 * (place.firstCce + place.aggregationLevel) + 4 +
      3 * cell.phichResources.groups cell.nofPrb .normal ≤ cell.controlRegs cfi := by
  have hends := h.ends
  have hlevel : 0 < place.aggregationLevel := pow_logLevel_pos place.logLevel
  have hcount : cell.cceCount cfi =
      (cell.controlRegs cfi - (4 + 3 * cell.phichResources.groups cell.nofPrb .normal)) / 9 := rfl
  omega

end ControlRegion

/--
**The places of a search space.**

A terminal is given, level by level from the highest on, consecutive aligned positions from its hash
on, turning over at the end of the region; no level is left out but those larger than the region,
and no number on the way to a place leaves 32 bits. All places are aligned and end in the region,
and from sixteen elements on they are different. Broadcast messages are given all aligned positions
of the two highest levels in the first sixteen elements, each once. In a cell that passes its check
the elements of every place are left over by the format indicator and the acknowledgements.
-/
theorem places_of_region (nofCce : UInt32) (subframe : Nat) (rnti : Rnti) :
    let n := nofCce.toNat
    let own := ueLocations n subframe rnti
    let common := commonLocations n
    (own = [(8, 3, 2), (4, 2, 2), (2, 1, 6), (1, 0, 6)].flatMap fun (level, logLevel, count) =>
      if level ≤ n then
        (List.range count).map fun m =>
          ⟨level * (((spaceHash rnti subframe).toNat + m) % (n / level)), logLevel⟩
      else []) ∧
    (∀ level ∈ [8, 4, 2, 1], level ≤ n → ∀ m,
      level * (((spaceHash rnti subframe).toNat + m) % (n / level)) + level < UInt32.size) ∧
    (∀ place ∈ own, place.aggregationLevel ∣ place.firstCce ∧
      place.firstCce + place.aggregationLevel ≤ n) ∧
    (16 ≤ n → own.Nodup) ∧
    (common = [(8, 3), (4, 2)].flatMap fun (level, logLevel) =>
      ((List.range (min n 16)).filter fun first => level ∣ first ∧ first + level ≤ min n 16).map
        fun first => ⟨first, logLevel⟩) ∧
    common.Nodup ∧
    ∀ (cell : CellConfig) (cfi : Nat), cell.check = .ok () → 1 ≤ cfi ∧ cfi ≤ 3 →
      cell.cceCount cfi = n →
        let regs := ∑ symbol ∈ Finset.range cfi, regsPerPrb symbol cell.nofPorts * cell.nofPrb
        regs < UInt32.size ∧ ∀ place ∈ own ++ common,
          9 * (place.firstCce + place.aggregationLevel) + 4 +
            3 * cell.phichResources.groups cell.nofPrb .normal ≤ regs := by
  intro n own common
  refine ⟨?_, fun level hlevel hle m => ?_, fun place hplace => ?_,
    fun h => nodup_ueLocations h subframe rnti, ?_, nodup_commonLocations n,
    fun cell cfi hcheck hcfi hcount => ?_⟩
  · simp only [own, ueLocations_eq, List.flatMap_cons, List.flatMap_nil, ueLevel_eq]
    rfl
  · have hpos : 0 < level := by
      have hall : ∀ l ∈ [8, 4, 2, 1], 0 < l := by decide
      exact hall level hlevel
    exact (mul_mod_add_le hpos hle _).trans_lt nofCce.toNat_lt_size
  · have hlies := liesIn_of_mem_ueLocations hplace
    exact ⟨hlies.aligned, hlies.ends⟩
  · simp only [common, commonLocations_eq, List.flatMap_cons, List.flatMap_nil, commonLevel_eq]
  · refine ⟨(controlRegs_le hcheck hcfi.2).trans_lt (by decide), fun place hplace => ?_⟩
    rw [← controlRegs_eq cell hcfi.2]
    have hlies : place.LiesIn n := by
      rcases List.mem_append.mp hplace with hown | hcommon
      · exact liesIn_of_mem_ueLocations hown
      · exact (liesIn_of_mem_commonLocations hcommon).mono (Nat.min_le_left n 16)
    rw [← hcount] at hlies
    exact regs_of_liesIn hlies

/-- A cell with twenty-five elements in two control symbols. -/
def wideCell : CellConfig :=
  ⟨50, 2, .normal, ⟨1⟩, .one, .normal⟩

/-- Sixteen different places of a terminal, one of them on the elements from 16 to 19. -/
theorem places_of_region_wideCell :
    wideCell.check = .ok () ∧ wideCell.cceCount 2 = (25 : UInt32).toNat ∧
      4 * (((spaceHash ⟨0x46⟩ 3).toNat + 1) % (25 / 4)) + 4 < UInt32.size ∧
      (ueLocations 25 3 ⟨0x46⟩).length = 16 ∧ (ueLocations 25 3 ⟨0x46⟩).Nodup ∧
      ⟨16, 2⟩ ∈ ueLocations 25 3 ⟨0x46⟩ ∧ 4 ∣ 16 ∧ 16 + 4 ≤ 25 ∧
      9 * (16 + 4) + 4 + 3 * wideCell.phichResources.groups 50 .normal ≤
        ∑ symbol ∈ Finset.range 2, regsPerPrb symbol 2 * 50 := by
  have hcheck : wideCell.check = .ok () := rfl
  have hplace : (⟨16, 2⟩ : DciLocation) ∈ ueLocations 25 3 ⟨0x46⟩ := by decide +kernel
  obtain ⟨-, hwords, hlies, hnodup, -, -, hregs⟩ := places_of_region 25 3 ⟨0x46⟩
  obtain ⟨haligned, hends⟩ := hlies ⟨16, 2⟩ hplace
  exact ⟨hcheck, rfl, hwords 4 (by decide) (by decide) 1, by decide +kernel, hnodup (by decide),
    hplace, haligned, hends,
    (hregs wideCell 2 hcheck (by decide) rfl).2 ⟨16, 2⟩ (List.mem_append_left _ hplace)⟩

end LteReceiver
