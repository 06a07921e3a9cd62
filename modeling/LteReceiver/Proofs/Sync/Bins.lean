import LteReceiver.Sync.Primary

/-!
# The bins of a synchronization sequence

The 62 values of a sequence have the 31 bins below the carrier and the 31 bins above it
(`IsSyncBin`). In a transform of 63 bins or more these are 62 different ones (`syncBin_injective`),
so no value is put on top of another one: a sequence that is spread over the bins is gathered from
them again, and the bins that are gathered and spread again are the same but for those that hold no
sequence (`bins_of_sequence`).

Spreading puts one value after the other at its place. What that leaves at a place is said for any
places that differ (`getElem?_placeAll`).
-/

namespace LteReceiver

/-! ## Values at their places -/

section Placing

variable {α : Type} {count k n : Nat} {place : Nat → Nat} {value : Nat → α} {start : Array α}

/-- Put values at their places, one after the other. -/
def placeAll (count : Nat) (place : Nat → Nat) (value : Nat → α) (start : Array α) : Array α :=
  (List.range count).foldl (fun values n => values.setIfInBounds (place n) (value n)) start

theorem placeAll_succ :
    placeAll (count + 1) place value start =
      (placeAll count place value start).setIfInBounds (place count) (value count) := by
  simp [placeAll, List.range_succ]

theorem size_placeAll : (placeAll count place value start).size = start.size := by
  induction count with
  | zero => rfl
  | succ count ih => rw [placeAll_succ, Array.size_setIfInBounds, ih]

/-- Nothing is put anywhere else. -/
theorem getElem?_placeAll_of_ne (h : ∀ n < count, place n ≠ k) :
    (placeAll count place value start)[k]? = start[k]? := by
  induction count with
  | zero => rfl
  | succ count ih =>
    rw [placeAll_succ, Array.getElem?_setIfInBounds_ne (h count (Nat.lt_succ_self count))]
    exact ih fun n hn => h n (Nat.lt_succ_of_lt hn)

/-- A value stays at its place if the places differ. -/
theorem getElem?_placeAll (hdiffer : ∀ n < count, ∀ m < count, place n = place m → n = m)
    (hn : n < count) (hroom : place n < start.size) :
    (placeAll count place value start)[place n]? = some (value n) := by
  induction count with
  | zero => exact absurd hn (Nat.not_lt_zero n)
  | succ count ih =>
    rw [placeAll_succ]
    by_cases hlast : n = count
    · subst hlast
      exact Array.getElem?_setIfInBounds_self_of_lt (by rwa [size_placeAll])
    · -- the value that is put last goes elsewhere
      have hbefore : n < count := by omega
      have hne : place count ≠ place n := fun heq =>
        hlast (hdiffer n hn count (Nat.lt_succ_self count) heq.symm)
      rw [Array.getElem?_setIfInBounds_ne hne]
      exact ih (fun i hi j hj => hdiffer i (Nat.lt_succ_of_lt hi) j (Nat.lt_succ_of_lt hj)) hbefore

end Placing

/-! ## Bins -/

/-- A bin holds a value of a sequence if it is one of the 31 above the carrier, or one of the 31
below it, which are the last ones of the transform. -/
def IsSyncBin (size k : Nat) : Prop :=
  1 ≤ k ∧ k ≤ 31 ∨ size - 31 ≤ k ∧ k < size

instance decidableIsSyncBin (size k : Nat) : Decidable (IsSyncBin size k) :=
  inferInstanceAs (Decidable (1 ≤ k ∧ k ≤ 31 ∨ size - 31 ≤ k ∧ k < size))

section Bins

variable {size n m k : Nat} (hsize : 63 ≤ size)

include hsize

theorem syncBin_lt (hn : n < 62) : syncBin n size < size := by
  unfold syncBin
  split <;> omega

theorem syncBin?_eq (n : Nat) : syncBin? n size = some (syncBin n size) :=
  if_neg (by omega)

theorem syncBin_injective (hn : n < 62) (hm : m < 62) (h : syncBin n size = syncBin m size) :
    n = m := by
  unfold syncBin at h
  split at h <;> split at h <;> omega

theorem isSyncBin_iff : IsSyncBin size k ↔ ∃ n < 62, syncBin n size = k := by
  unfold IsSyncBin
  constructor
  · -- the second half of the sequence lies above the carrier, and the first half below it
    rintro (⟨hlow, hhigh⟩ | ⟨hlow, hhigh⟩)
    · exact ⟨k + 30, by omega, by unfold syncBin; split <;> omega⟩
    · exact ⟨k - (size - 31), by omega, by unfold syncBin; split <;> omega⟩
  · rintro ⟨n, hn, rfl⟩
    unfold syncBin
    split <;> omega

theorem binsFit_of_le (count : Nat) : binsFit count size = true := by
  rw [binsFit, List.all_eq_true]
  intro n hn
  have hn : n < 62 := Nat.lt_of_lt_of_le (List.mem_range.mp hn) (Nat.min_le_right ..)
  rw [syncBin?_eq hsize, Option.any_some]
  exact decide_eq_true (syncBin_lt hsize hn)

end Bins

/-! ## Spreading and gathering -/

theorem spread_eq (sequence : Array Sample) (size : Nat) :
    spread sequence size =
      placeAll (min sequence.size syncLength) (syncBin · size) (sequence.getD · .zero)
        (.replicate size .zero) :=
  rfl

theorem size_spread (sequence : Array Sample) (size : Nat) :
    (spread sequence size).size = size := by
  rw [spread_eq, size_placeAll, Array.size_replicate]

section Bins

variable {size n k : Nat} (hsize : 63 ≤ size) {sequence bins : Array Sample}

theorem getElem?_gather (hn : n < 62) (h : syncBin n bins.size < bins.size) :
    (gather bins)[n]? = bins[syncBin n bins.size]? := by
  have hlength : n < syncLength := hn
  rw [gather, Array.getElem?_ofFn, dif_pos hlength]
  simp [h]

include hsize

/-- A bin that holds no value of a sequence is left empty. -/
theorem getElem?_spread_of_not (hk : k < size) (h : ¬ IsSyncBin size k) :
    (spread sequence size)[k]? = some .zero := by
  rw [spread_eq, getElem?_placeAll_of_ne]
  · simp [hk]
  · intro n hn heq
    exact h ((isSyncBin_iff hsize).mpr ⟨n, Nat.lt_of_lt_of_le hn (Nat.min_le_right ..), heq⟩)

/-- A value is put into its bin. -/
theorem getElem?_spread (hn : n < 62) (hlong : n < sequence.size) :
    (spread sequence size)[syncBin n size]? = sequence[n]? := by
  have hdiffer : ∀ i < min sequence.size syncLength, ∀ j < min sequence.size syncLength,
      syncBin i size = syncBin j size → i = j := fun i hi j hj =>
    syncBin_injective hsize (Nat.lt_of_lt_of_le hi (Nat.min_le_right ..))
      (Nat.lt_of_lt_of_le hj (Nat.min_le_right ..))
  have hroom : syncBin n size < (Array.replicate size Sample.zero).size := by
    rw [Array.size_replicate]
    exact syncBin_lt hsize hn
  rw [spread_eq, getElem?_placeAll hdiffer (Nat.lt_min.mpr ⟨hlong, hn⟩) hroom]
  simp [hlong]

/-- What was spread is gathered. -/
theorem gather_spread (hlong : 62 ≤ sequence.size) :
    gather (spread sequence size) = sequence.take 62 := by
  apply Array.ext_getElem?
  intro n
  by_cases hn : n < 62
  · have hbin : syncBin n (spread sequence size).size < (spread sequence size).size := by
      rw [size_spread]
      exact syncBin_lt hsize hn
    rw [getElem?_gather hn hbin, size_spread, getElem?_spread hsize hn (by omega)]
    rw [Array.take_eq_extract, Array.getElem?_extract, if_pos (by omega), Nat.zero_add]
  · have hsizes : 62 ≤ n ∧ (sequence.take 62).size ≤ n := by simp; omega
    rw [Array.getElem?_eq_none (by rw [size_gather]; exact hsizes.1),
      Array.getElem?_eq_none hsizes.2]

/-- What was gathered is spread, and all else is empty. -/
theorem spread_gather (hbins : bins.size = size) :
    spread (gather bins) size =
      bins.mapIdx fun k bin => if IsSyncBin size k then bin else .zero := by
  apply Array.ext_getElem?
  intro k
  rw [Array.getElem?_mapIdx]
  by_cases hk : k < size
  · by_cases hsync : IsSyncBin size k
    · obtain ⟨n, hn, rfl⟩ := (isSyncBin_iff hsize).mp hsync
      rw [getElem?_spread hsize hn (by rwa [size_gather]), getElem?_gather hn (by rwa [hbins])]
      simp [hsync, hbins]
    · rw [getElem?_spread_of_not hsize hk hsync]
      simp [hsync, hbins, hk]
  · have hspread := size_spread (gather bins) size
    simp [hspread, hbins, hk]

end Bins

/-! ## Sequences and bins -/

/--
**A sequence keeps its 62 values in the bins of a transform of 63 bins or more.**

Each of the 62 values has a bin of its own inside the transform. The bins a sequence is spread over
hold nothing else: the carrier's bin, and every one that is not among the 31 after it and the 31
last, is empty. The values gathered from them are the first 62 of the sequence.

The other way round, the values gathered from any bins are spread over those they came from, and the
carrier's bin and the guard bins come out empty.
-/
theorem bins_of_sequence {size : Nat} (hsize : 63 ≤ size) :
    (∀ n < 62, syncBin? n size = some (syncBin n size) ∧ syncBin n size < size) ∧
    (∀ n < 62, ∀ m < 62, syncBin n size = syncBin m size → n = m) ∧
    (∀ sequence : Array Sample, 62 ≤ sequence.size →
      ∃ bins, spread? sequence size = some bins ∧ bins.size = size ∧ bins[0]? = some .zero ∧
        (∀ k < size, ¬ IsSyncBin size k → bins[k]? = some .zero) ∧
        gather? bins = some (sequence.take 62)) ∧
    (∀ bins : Array Sample, bins.size = size →
      ∃ sequence, gather? bins = some sequence ∧
        spread? sequence size =
          some (bins.mapIdx fun k bin => if IsSyncBin size k then bin else .zero)) := by
  have hfit (count : Nat) : binsFit count size = true := binsFit_of_le hsize count
  refine ⟨fun n hn => ⟨syncBin?_eq hsize n, syncBin_lt hsize hn⟩,
    fun n hn m hm => syncBin_injective hsize hn hm,
    fun sequence hlong => ?_, fun bins hbins => ?_⟩
  · refine ⟨spread sequence size, if_pos (hfit sequence.size), size_spread sequence size,
      getElem?_spread_of_not hsize (by omega) ?_, fun k hk h => ?_, ?_⟩
    · unfold IsSyncBin
      omega
    · exact getElem?_spread_of_not hsize hk h
    · rw [gather?, size_spread, if_pos (hfit syncLength), gather_spread hsize hlong]
  · refine ⟨gather bins, by rw [gather?, hbins, if_pos (hfit syncLength)], ?_⟩
    rw [spread?, if_pos (hfit (gather bins).size), spread_gather hsize hbins]

/-- In the smallest such transform only the carrier's bin is left over. -/
theorem bins_of_primarySequence :
    (63 ≤ 63) ∧ 62 ≤ (primarySequence 0).size ∧
      ∃ bins, spread? (primarySequence 0) 63 = some bins ∧ bins.size = 63 ∧
        bins[0]? = some .zero ∧ gather? bins = some ((primarySequence 0).take 62) := by
  have hlong : 62 ≤ (primarySequence 0).size := Nat.le_of_eq Array.size_ofFn.symm
  obtain ⟨-, -, hkept, -⟩ := bins_of_sequence (Nat.le_refl 63)
  obtain ⟨bins, hspread, hsize, hcarrier, -, hgather⟩ := hkept (primarySequence 0) hlong
  exact ⟨Nat.le_refl 63, hlong, bins, hspread, hsize, hcarrier, hgather⟩

/-- One bin less, and the last value falls on the first one. -/
example : syncBin 0 62 = syncBin 61 62 := by
  decide

end LteReceiver
