import LteReceiver.Sync.Primary
import Mathlib.Data.Nat.Bitwise
import Mathlib.Data.Nat.Size
import Mathlib.Order.Bounds.Defs

/-!
# The size of a correlation

A window and a symbol are transformed together, at the next power of two (`nextPowerOfTwo?`). It is
found by filling a word with ones below its highest one: each step doubles how many of the highest
bits are ones (`TopOnes.step`), so five steps fill all 32 (`toNat_fillBelow`). Up to a half of all
words the word after that is the least power of two that will do (`exists_nextPowerOfTwo?`,
`isLeast_two_pow_size`), and beyond it there is no such word (`nextPowerOfTwo?_eq_none`).

So a correlation has room for the whole window and for the symbol behind it, and at no lag does a
value of the symbol meet a sample from the other end of the window (`size_of_correlation`).
-/

namespace LteReceiver

theorem le_of_isFftSize {size : Nat} (h : isFftSize size = true) :
    minFftSize ≤ size ∧ size ≤ maxFftSize := by
  simp only [isFftSize, Bool.and_eq_true, decide_eq_true_eq] at h
  exact h.1

/-! ## Filling a word -/

/-- A word of a length in bits, of which the highest `count` are ones. -/
structure TopOnes (length count : Nat) (word : UInt32) : Prop where
  lt : word.toNat < 2 ^ length
  ones : ∀ i < length, length ≤ i + count → word.toNat.testBit i = true

/-- The highest bit of a word is a one. -/
theorem topOnes_size (word : UInt32) : TopOnes word.toNat.size 1 word := by
  refine ⟨Nat.lt_size_self _, ?_⟩
  intro i hlt hle
  have hsize : word.toNat.size = i + 1 := by omega
  refine Nat.testBit_of_two_pow_le_and_two_pow_add_one_gt (Nat.lt_size.mp hlt) ?_
  rw [← hsize]
  exact Nat.lt_size_self _

/-- Moving the ones down by as many places as there are, and keeping them, doubles them. -/
theorem TopOnes.step {length count : Nat} {word : UInt32} (h : TopOnes length count word)
    (places : UInt32) (hplaces : places.toNat = count) (hcount : count < 32) :
    TopOnes length (2 * count) (word ||| word >>> places) := by
  have hword : (word ||| word >>> places).toNat = word.toNat ||| word.toNat >>> count := by
    rw [UInt32.toNat_or, UInt32.toNat_shiftRight, hplaces, Nat.mod_eq_of_lt hcount]
  constructor
  · rw [hword]
    exact Nat.or_lt_two_pow h.lt ((Nat.shiftRight_le _ _).trans_lt h.lt)
  · intro i hlt hle
    rw [hword, Nat.testBit_or, Nat.testBit_shiftRight, Bool.or_eq_true]
    -- a bit was a one before, or is a one that came down
    rcases Nat.lt_or_ge (count + i) length with hlow | hhigh
    · exact .inr (h.ones (count + i) hlow (by omega))
    · exact .inl (h.ones i hlt (by omega))

/-- **A word is filled from its highest one down.** -/
theorem toNat_fillBelow (word : UInt32) :
    (fillBelow word).toNat = 2 ^ word.toNat.size - 1 := by
  have htwo := (topOnes_size word).step 1 rfl (by decide)
  have hfour := htwo.step 2 rfl (by decide)
  have height := hfour.step 4 rfl (by decide)
  have hsixteen := height.step 8 rfl (by decide)
  have hfilled : TopOnes word.toNat.size 32 (fillBelow word) := hsixteen.step 16 rfl (by decide)
  have hsize : word.toNat.size ≤ 32 := Nat.size_le.mpr word.toNat_lt
  apply Nat.eq_of_testBit_eq
  intro i
  rw [Nat.testBit_two_pow_sub_one]
  rcases Nat.lt_or_ge i word.toNat.size with hlt | hge
  · rw [hfilled.ones i hlt (by omega), decide_eq_true hlt]
  · have hbelow : (fillBelow word).toNat < 2 ^ i :=
      hfilled.lt.trans_le (Nat.pow_le_pow_right Nat.zero_lt_two hge)
    rw [Nat.testBit_lt_two_pow hbelow, decide_eq_false (Nat.not_lt.mpr hge)]

theorem toNat_allOnes : (0xFFFFFFFF : UInt32).toNat = 2 ^ 32 - 1 :=
  rfl

/-! ## Powers of two -/

/-- The least power of two that is not below a number has as many zeros as the number before it has
bits. -/
theorem isLeast_two_pow_size (n : Nat) :
    IsLeast {power | (∃ k, power = 2 ^ k) ∧ max n 1 ≤ power} (2 ^ (n - 1).size) := by
  have hpositive : 0 < 2 ^ (n - 1).size := Nat.two_pow_pos _
  constructor
  · have hlt := Nat.lt_size_self (n - 1)
    exact ⟨⟨_, rfl⟩, by omega⟩
  · rintro _ ⟨⟨k, rfl⟩, hle⟩
    exact Nat.pow_le_pow_right Nat.zero_lt_two (Nat.size_le.mpr (by omega))

section NextPower

variable {n : UInt32}

theorem toNat_pred (h : n ≠ 0) : (n - 1).toNat + 1 = n.toNat := by
  have hpositive : 1 ≤ n.toNat := Nat.pos_of_ne_zero fun h0 => h (UInt32.toNat_inj.mp h0)
  have hpred : (n - 1).toNat = n.toNat - 1 :=
    UInt32.toNat_sub_of_le n 1 (UInt32.le_iff_toNat_le.mpr hpositive)
  omega

theorem toNat_fillBelow_pred (h : n ≠ 0) :
    (fillBelow (n - 1)).toNat + 1 = 2 ^ (n.toNat - 1).size := by
  have hpred : (n - 1).toNat = n.toNat - 1 := Nat.eq_sub_of_add_eq (toNat_pred h)
  rw [toNat_fillBelow, hpred, Nat.sub_add_cancel Nat.one_le_two_pow]

/-- Up to a half of all words there is a next power of two. -/
theorem exists_nextPowerOfTwo? (h : n.toNat ≤ 2 ^ 31) :
    ∃ power, nextPowerOfTwo? n = some power ∧ power.toNat = 2 ^ (n.toNat - 1).size := by
  by_cases hzero : n = 0
  · subst hzero
    exact ⟨1, rfl, rfl⟩
  · have hnext := toNat_fillBelow_pred hzero
    have hpower : 2 ^ (n.toNat - 1).size ≤ 2 ^ 31 :=
      Nat.pow_le_pow_right Nat.zero_lt_two (Nat.size_le.mpr (by omega))
    have hfilled : fillBelow (n - 1) ≠ 0xFFFFFFFF := by
      intro hfull
      rw [hfull, toNat_allOnes] at hnext
      omega
    refine ⟨fillBelow (n - 1) + 1, ?_, ?_⟩
    · rw [nextPowerOfTwo?, if_neg hzero]
      exact if_neg hfilled
    · rw [UInt32.toNat_add, UInt32.toNat_one, Nat.mod_eq_of_lt (by omega), hnext]

/-- Beyond a half of all words every bit is filled, and there is none. -/
theorem nextPowerOfTwo?_eq_none (h : 2 ^ 31 < n.toNat) : nextPowerOfTwo? n = none := by
  have hzero : n ≠ 0 := by
    rintro rfl
    exact absurd h (by decide)
  have hlong : 32 ≤ (n.toNat - 1).size := Nat.lt_size.mpr (by omega)
  have hshort : (n.toNat - 1).size ≤ 32 :=
    Nat.size_le.mpr ((Nat.sub_le _ _).trans_lt n.toNat_lt)
  have hnext := toNat_fillBelow_pred hzero
  rw [Nat.le_antisymm hshort hlong] at hnext
  have hfilled : fillBelow (n - 1) = 0xFFFFFFFF :=
    UInt32.toNat_inj.mp (by rw [toNat_allOnes]; omega)
  rw [nextPowerOfTwo?, if_neg hzero]
  exact if_pos hfilled

end NextPower

/-! ## Room for a window -/

/-- A correlation has room for its window with the symbol behind it. -/
theorem Correlator.exists_sizeFor? {window fftSize : Nat} (h : window + fftSize ≤ 2 ^ 31) :
    ∃ size, sizeFor? window fftSize = some size ∧ window + fftSize ≤ size := by
  have hword : (UInt32.ofNat (window + fftSize)).toNat = window + fftSize :=
    UInt32.toNat_ofNat_of_lt' (by rw [UInt32.size]; omega)
  obtain ⟨power, hpower, hvalue⟩ := exists_nextPowerOfTwo? (hword.trans_le h)
  have hle := (isLeast_two_pow_size (window + fftSize)).1.2
  rw [hword] at hvalue
  refine ⟨power.toNat, ?_, by omega⟩
  rw [sizeFor?, hpower, Option.map_some]

/-- The spectra at hand are used only if they are for the same size. -/
theorem PrimaryDetector.size_correlatorFor (detector : PrimaryDetector) (size : Nat) :
    (detector.correlatorFor size).size = size := by
  unfold correlatorFor
  split
  · split
    · assumption
    · rfl
  · rfl

/-- Behind the samples there are only zeros. -/
theorem getElem?_padded (samples : Array Sample) {size i : Nat} (h : i < size) :
    (padded samples size)[i]? = some (samples.getD i .zero) := by
  rw [padded, Array.getElem?_append, Array.getD_eq_getD_getElem?]
  split
  next hin => rw [Array.getElem?_eq_getElem hin, Option.getD_some]
  next hout =>
    rw [Array.getElem?_eq_none (Nat.not_lt.mp hout), Option.getD_none, Array.getElem?_replicate,
      if_pos (by omega)]

/--
**The size of a correlation, whatever the window is.**

Up to a half of all words the next power of two is the least power of two that is neither below the
word nor below one. On the way to it no word is left: one is taken from a word only if it is not
zero, and the addition at the end leaves the words exactly beyond a half of them, where there is no
answer. So for up to 307200 samples in a window and 2048 in a symbol, a correlation has room for
both, with whatever spectra are at hand; and at each lag every value of the symbol meets the sample
of the window that lies as far behind the lag, without turning over at the end of the transform.
-/
theorem size_of_correlation (n : UInt32) (detector : PrimaryDetector) (window : Array Sample) :
    (n.toNat ≤ 2 ^ 31 → ∃ power, nextPowerOfTwo? n = some power ∧
      IsLeast {power | (∃ k, power = 2 ^ k) ∧ max n.toNat 1 ≤ power} power.toNat) ∧
    (n ≠ 0 → (n - 1).toNat + 1 = n.toNat ∧
      ((fillBelow (n - 1)).toNat + 1 < UInt32.size ↔ n.toNat ≤ 2 ^ 31)) ∧
    (2 ^ 31 < n.toNat → nextPowerOfTwo? n = none) ∧
    (window.size ≤ 307200 → detector.fftSize ≤ 2048 →
      ∃ size, Correlator.sizeFor? window.size detector.fftSize = some size ∧
        (detector.correlatorFor size).size = size ∧
        window.size + detector.fftSize ≤ size ∧
        ∀ lag < window.size - detector.fftSize + 1, ∀ i < detector.fftSize,
          lag + i < size ∧ (lag + i) % size = lag + i ∧
          (detector.fftSize ≤ window.size → lag + i < window.size) ∧
          (padded window size)[(lag + i) % size]? = some (window.getD (lag + i) .zero)) := by
  refine ⟨fun hhalf => ?_, fun hpositive => ⟨toNat_pred hpositive, ?_⟩, nextPowerOfTwo?_eq_none,
    fun hwindow hsymbol => ?_⟩
  · obtain ⟨power, hpower, hvalue⟩ := exists_nextPowerOfTwo? hhalf
    refine ⟨power, hpower, ?_⟩
    rw [hvalue]
    exact isLeast_two_pow_size n.toNat
  · rw [toNat_fillBelow_pred hpositive, show UInt32.size = 2 ^ 32 from rfl,
      Nat.pow_lt_pow_iff_right (by decide), Nat.lt_succ_iff, Nat.size_le]
    omega
  · have hspan : window.size + detector.fftSize ≤ 2 ^ 31 := by omega
    obtain ⟨size, hsize, hroom⟩ := Correlator.exists_sizeFor? hspan
    refine ⟨size, hsize, detector.size_correlatorFor size, hroom, ?_⟩
    intro lag hlag i hi
    have hlt : lag + i < size := by omega
    have hmod : (lag + i) % size = lag + i := Nat.mod_eq_of_lt hlt
    refine ⟨hlt, hmod, fun hfits => by omega, ?_⟩
    rw [hmod]
    exact getElem?_padded window hlt

/-- A window of 100 samples and a symbol of 64 are correlated with 256. At the last lag the last
value of the symbol meets the last sample. Just beyond a half of all words there is no power of
two. -/
theorem size_of_correlation_shortWindow :
    nextPowerOfTwo? 0x80000001 = none ∧
    ¬ (fillBelow (0x80000001 - 1)).toNat + 1 < UInt32.size ∧
    ∃ detector power, PrimaryDetector.ofFftSize 64 = .ok detector ∧
      nextPowerOfTwo? 164 = some power ∧ (∃ k, power.toNat = 2 ^ k) ∧
      Correlator.sizeFor? 100 64 = some 256 ∧ (detector.correlatorFor 256).size = 256 ∧
      (36 + 63) % 256 = 99 ∧ 36 + 63 < 100 ∧
      (padded (.replicate 100 ⟨1, 0⟩) 256)[(36 + 63) % 256]? = some ⟨1, 0⟩ := by
  obtain ⟨detector, hdetector, hfftSize⟩ : ∃ detector,
      PrimaryDetector.ofFftSize 64 = .ok detector ∧ detector.fftSize = 64 := ⟨_, rfl, rfl⟩
  obtain ⟨-, hwords, hnone, -⟩ := size_of_correlation 0x80000001 detector #[]
  obtain ⟨hpower, -, -, hroom⟩ := size_of_correlation 164 detector (.replicate 100 ⟨1, 0⟩)
  obtain ⟨power, hpower, hleast⟩ := hpower (by decide)
  obtain ⟨-, hfits⟩ := hwords (by decide)
  obtain ⟨size, hsize, hspectra, -, hlags⟩ := hroom (by simp) (by omega)
  rw [hfftSize, Array.size_replicate] at hsize hlags
  have h256 : size = 256 := by
    have hfor : Correlator.sizeFor? 100 64 = some 256 := by decide
    exact Option.some.inj (hsize.symm.trans hfor)
  subst h256
  obtain ⟨-, hplace, hinside, hsample⟩ := hlags 36 (by decide) 63 (by decide)
  refine ⟨hnone (by decide), ?_, detector, power, hdetector, hpower, hleast.1.1, hsize, hspectra,
    hplace, hinside (by decide), hsample⟩
  intro hlt
  exact absurd (hfits.mp hlt) (by decide)

end LteReceiver
