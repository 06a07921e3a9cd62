import LteReceiver.Transport.CodeBlocks
import Mathlib.Algebra.Order.Floor.Div

/-!
# The division into code blocks

A transport block with its checksum that is too large for the turbo coder is cut. Every code block
then carries a checksum too, so how many blocks it takes depends on how many there are. Dividing by
what a block has room for besides its checksum gives the least number that will do
(`isLeast_count`), and the size of a block is the least that holds everything (`isLeast_size`).

`CodeBlocks.division_of_ofTbs` puts together what that means for any transport block: all of it
fits, no block is too large for the coder, fewer bits than there are blocks are wasted, and a larger
transport block never takes fewer code blocks.
-/

namespace LteReceiver

/-! ## Quotients rounded up -/

theorem ceilDiv_le_iff {n d : Nat} (hd : 0 < d) (c : Nat) : ceilDiv n d ≤ c ↔ n ≤ d * c := by
  have hceil : ceilDiv n d = n ⌈/⌉ d := (Nat.ceilDiv_eq_add_pred_div n d).symm
  rw [hceil, ceilDiv_le_iff_le_mul hd]

/-- A quotient rounded up is the least number that makes up for the dividend. -/
theorem isLeast_ceilDiv (n : Nat) {d : Nat} (hd : 0 < d) :
    IsLeast {c | n ≤ d * c} (ceilDiv n d) :=
  ⟨(ceilDiv_le_iff hd _).mp le_rfl, fun c hc => (ceilDiv_le_iff hd c).mpr hc⟩

namespace CodeBlocks

variable {tbs : Nat}

/-! ## Blocks that are not cut -/

theorem ofTbs_of_le (hpos : 0 < tbs) (hfits : tbs + 24 ≤ 6144) :
    ofTbs tbs = ⟨tbs, 1, tbs + 24⟩ := by
  rw [ofTbs, if_neg (Nat.pos_iff_ne_zero.mp hpos)]
  exact if_pos hfits

/-! ## Blocks that are cut -/

theorem ofTbs_of_lt (hlarge : 6144 < tbs + 24) :
    ofTbs tbs =
      let count := ceilDiv (tbs + 24) 6120
      ⟨tbs, count, ceilDiv (tbs + 24 + count * 24) count⟩ := by
  have hne : tbs ≠ 0 := by omega
  rw [ofTbs, if_neg hne]
  exact if_neg (Nat.not_le.mpr hlarge)

/-- The number of code blocks is the least one for which they hold the transport block, its checksum
and one checksum each. -/
theorem isLeast_count (hlarge : 6144 < tbs + 24) :
    IsLeast {count | tbs + 24 + 24 * count ≤ 6144 * count} (ofTbs tbs).count := by
  have hroom : {count | tbs + 24 + 24 * count ≤ 6144 * count} =
      {count | tbs + 24 ≤ 6120 * count} := by
    ext count
    show tbs + 24 + 24 * count ≤ 6144 * count ↔ tbs + 24 ≤ 6120 * count
    omega
  rw [hroom, ofTbs_of_lt hlarge]
  exact isLeast_ceilDiv _ (by decide)

theorem two_le_count (hlarge : 6144 < tbs + 24) : 2 ≤ (ofTbs tbs).count := by
  have hholds : tbs + 24 + 24 * (ofTbs tbs).count ≤ 6144 * (ofTbs tbs).count :=
    (isLeast_count hlarge).1
  omega

/-- The size of a code block is the least one for which the blocks hold all that. -/
theorem isLeast_size (hlarge : 6144 < tbs + 24) :
    IsLeast {size | tbs + 24 + 24 * (ofTbs tbs).count ≤ (ofTbs tbs).count * size}
      (ofTbs tbs).size := by
  have hcount : 0 < (ofTbs tbs).count := Nat.lt_of_lt_of_le Nat.zero_lt_two (two_le_count hlarge)
  have hsize : (ofTbs tbs).size =
      ceilDiv (tbs + 24 + 24 * (ofTbs tbs).count) (ofTbs tbs).count := by
    rw [ofTbs_of_lt hlarge, Nat.mul_comm 24]
  rw [hsize]
  exact isLeast_ceilDiv _ hcount

/-- The coder takes blocks of the size that the number of blocks was worked out for. -/
theorem size_le (hlarge : 6144 < tbs + 24) : (ofTbs tbs).size ≤ 6144 := by
  have hholds : tbs + 24 + 24 * (ofTbs tbs).count ≤ 6144 * (ofTbs tbs).count :=
    (isLeast_count hlarge).1
  refine (isLeast_size hlarge).2 ?_
  show tbs + 24 + 24 * (ofTbs tbs).count ≤ (ofTbs tbs).count * 6144
  rwa [Nat.mul_comm _ 6144]

/-- Blocks that are one bit smaller would not do, so fewer bits are wasted than there are blocks. -/
theorem filler_lt (hlarge : 6144 < tbs + 24) :
    (ofTbs tbs).count * (ofTbs tbs).size - (tbs + 24 + 24 * (ofTbs tbs).count) <
      (ofTbs tbs).count := by
  have hcount := two_le_count hlarge
  have hholds : tbs + 24 + 24 * (ofTbs tbs).count ≤ (ofTbs tbs).count * (ofTbs tbs).size :=
    (isLeast_size hlarge).1
  by_contra hwasted
  have hsmaller : tbs + 24 + 24 * (ofTbs tbs).count ≤
      (ofTbs tbs).count * ((ofTbs tbs).size - 1) := by
    rw [Nat.mul_sub_one]
    omega
  have hle : (ofTbs tbs).size ≤ (ofTbs tbs).size - 1 := (isLeast_size hlarge).2 hsmaller
  have hzero : (ofTbs tbs).size = 0 := by omega
  rw [hzero] at hholds
  omega

/-! ## All blocks -/

theorem count_mono {larger : Nat} (h : tbs ≤ larger) :
    (ofTbs tbs).count ≤ (ofTbs larger).count := by
  by_cases hzero : tbs = 0
  · rw [hzero]
    exact Nat.zero_le _
  · have hpos : 0 < tbs := Nat.pos_iff_ne_zero.mpr hzero
    by_cases hlarge : 6144 < tbs + 24
    · -- what is enough for the larger transport block is enough for the smaller one
      have hholds : larger + 24 + 24 * (ofTbs larger).count ≤ 6144 * (ofTbs larger).count :=
        (isLeast_count (by omega)).1
      refine (isLeast_count hlarge).2 ?_
      show tbs + 24 + 24 * (ofTbs larger).count ≤ 6144 * (ofTbs larger).count
      omega
    · rw [ofTbs_of_le hpos (Nat.not_lt.mp hlarge)]
      by_cases hcut : 6144 < larger + 24
      · exact Nat.le_of_succ_le (two_le_count hcut)
      · rw [ofTbs_of_le (Nat.lt_of_lt_of_le hpos h) (Nat.not_lt.mp hcut)]

/--
**How a transport block is divided.**

With its checksum of 24 bits it is one code block, as it is, up to 6144 bits. Beyond that every code
block carries a checksum of its own. Their number is the least for which blocks of 6144 bits hold
everything, their size is the least for which that many blocks do, and fewer bits are filled up than
there are blocks.

So the blocks hold the whole transport block with all checksums, none is larger than 6144 bits,
there are two or more of them exactly where the transport block has to be cut, and a larger
transport block has at least as many.
-/
theorem division_of_ofTbs (tbs : Nat) (hpos : 0 < tbs) :
    let bits := tbs + 24
    let blocks := ofTbs tbs
    blocks.tbs = tbs ∧
    (bits ≤ 6144 → blocks.count = 1 ∧ blocks.size = bits) ∧
    (6144 < bits →
      IsLeast {count | bits + 24 * count ≤ 6144 * count} blocks.count ∧
      IsLeast {size | bits + 24 * blocks.count ≤ blocks.count * size} blocks.size ∧
      blocks.count * blocks.size - (bits + 24 * blocks.count) < blocks.count) ∧
    bits + (if blocks.count = 1 then 0 else 24 * blocks.count) ≤ blocks.count * blocks.size ∧
    blocks.size ≤ 6144 ∧
    (2 ≤ blocks.count ↔ 6144 < bits) ∧
    ∀ larger, tbs ≤ larger → blocks.count ≤ (ofTbs larger).count := by
  intro bits blocks
  by_cases hlarge : 6144 < bits
  · have hcount : 2 ≤ blocks.count := two_le_count hlarge
    refine ⟨congrArg CodeBlocks.tbs (ofTbs_of_lt hlarge), fun hfits => ?_,
      fun _ => ⟨isLeast_count hlarge, isLeast_size hlarge, filler_lt hlarge⟩, ?_,
      size_le hlarge, iff_of_true hcount hlarge, fun _ => count_mono⟩
    · exact absurd hlarge (Nat.not_lt.mpr hfits)
    · rw [if_neg (by omega)]
      exact (isLeast_size hlarge).1
  · have hfits : bits ≤ 6144 := Nat.not_lt.mp hlarge
    have hblocks : blocks = ⟨tbs, 1, bits⟩ := ofTbs_of_le hpos hfits
    refine ⟨congrArg CodeBlocks.tbs hblocks, fun _ => ?_, fun h => absurd h hlarge, ?_, ?_, ?_,
      fun _ => count_mono⟩
    · rw [hblocks]
      exact ⟨rfl, rfl⟩
    · rw [hblocks, if_pos rfl, Nat.one_mul, Nat.add_zero]
    · rw [hblocks]
      exact hfits
    · rw [hblocks]
      exact iff_of_false (Nat.not_le.mpr Nat.one_lt_two) hlarge

/-- One bit more than two code blocks hold makes a third one. -/
theorem division_of_ofTbs_thirdBlock :
    ofTbs 12216 = ⟨12216, 2, 6144⟩ ∧ ofTbs 12217 = ⟨12217, 3, 4105⟩ ∧
    IsLeast {count | 12217 + 24 + 24 * count ≤ 6144 * count} 3 ∧
    IsLeast {size | 12217 + 24 + 24 * 3 ≤ 3 * size} 4105 ∧
    3 * 4105 - (12217 + 24 + 24 * 3) < 3 := by
  obtain ⟨-, -, hcut, -⟩ := division_of_ofTbs 12217 (by decide)
  exact ⟨rfl, rfl, hcut (by decide)⟩

end CodeBlocks

end LteReceiver
