import LteReceiver.Downlink.Precoding
import Mathlib.Algebra.BigOperators.Field
import Mathlib.Algebra.BigOperators.Fin
import Mathlib.Algebra.Order.BigOperators.Group.Finset
import Mathlib.Algebra.Order.Field.Basic
import Mathlib.Tactic.Linarith
import Mathlib.Tactic.Positivity
import Mathlib.Tactic.Ring

/-!
# SINR over exact numbers

The SINR of a codebook, read over an ordered field. The noise that is counted with is never zero
(`flooredNoise_pos`), and with such a noise neither is any divisor on the way to a SINR.

* One layer: the four weights turn the second port by quarters of a turn, so what the antennas gain
  by one of them they lose by another. Over all entries the SINR comes to four times that of the
  whole energy of the channel (`sum_oneLayerSinr`).
* Two layers: what the layers have in common is bounded by their powers, by Lagrange's identity
  (`power_layerCross_le`). So behind a receiver of least mean square error neither layer has a SINR
  below zero (`layerSinrs_nonneg`), for singular channels too.
-/

namespace LteReceiver

/-! ## Phasors -/

namespace Phasor

section Parts

variable {R : Type} (z w : Phasor R)

@[simp] theorem re_add [Add R] : (z + w).re = z.re + w.re := rfl

@[simp] theorem im_add [Add R] : (z + w).im = z.im + w.im := rfl

@[simp] theorem re_sub [Sub R] : (z - w).re = z.re - w.re := rfl

@[simp] theorem im_sub [Sub R] : (z - w).im = z.im - w.im := rfl

@[simp] theorem re_mul [Add R] [Sub R] [Mul R] : (z * w).re = z.re * w.re - z.im * w.im := rfl

@[simp] theorem im_mul [Add R] [Sub R] [Mul R] : (z * w).im = z.re * w.im + z.im * w.re := rfl

@[simp] theorem re_conj [Neg R] : z.conj.re = z.re := rfl

@[simp] theorem im_conj [Neg R] : z.conj.im = -z.im := rfl

end Parts

variable {R : Type} [Field R]

theorem power_shrink (z : Phasor R) (divisor : R) :
    (z.shrink divisor).power = z.power / (divisor * divisor) := by
  simp only [power, shrink, div_mul_div_comm, add_div]

/-- Lagrange's identity for two pairs of phasors. -/
theorem power_conj_mul_add (a b c d : Phasor R) :
    (a.conj * b + c.conj * d).power + (a * d - c * b).power =
      (a.power + c.power) * (b.power + d.power) := by
  simp only [power, re_add, im_add, re_sub, im_sub, re_mul, im_mul, re_conj, im_conj]
  ring

variable [LinearOrder R] [IsStrictOrderedRing R]

theorem power_nonneg (z : Phasor R) : 0 ≤ z.power :=
  add_nonneg (mul_self_nonneg z.re) (mul_self_nonneg z.im)

end Phasor

section Fields

variable {R : Type} [Field R] (channel : ChannelMatrix R) (entry : Fin 4) (noise : R)

/-! ## One layer -/

/-- The energy of a channel, over both ports and both antennas. -/
def matrixEnergy : R :=
  ∑ port, ∑ antenna, ((channel.get port).get antenna).power

/-- The weights are the quarters of a turn: what one of them adds up another cancels. -/
theorem sum_power_weighted (z w : Phasor R) :
    ∑ entry, (z + oneLayerWeight entry * w).power = 4 * (z.power + w.power) := by
  simp only [Fin.sum_univ_four, oneLayerWeight, Phasor.power, Phasor.re_add, Phasor.im_add,
    Phasor.re_mul, Phasor.im_mul, Nat.cast_zero, Nat.cast_one]
  ring

theorem oneLayerSinr_eq :
    oneLayerSinr channel entry noise =
      (∑ antenna, ((channel.get 0).get antenna +
        oneLayerWeight entry * (channel.get 1).get antenna).power) / (2 * noise) := by
  rw [Fin.sum_univ_two]
  rfl

/-- **The entries for one layer share the energy of the channel.** -/
theorem sum_oneLayerSinr :
    ∑ entry, oneLayerSinr channel entry noise = 4 * (matrixEnergy channel / (2 * noise)) := by
  simp only [oneLayerSinr_eq]
  rw [← Finset.sum_div, Finset.sum_comm, ← mul_div_assoc]
  simp only [sum_power_weighted, matrixEnergy, Fin.sum_univ_two]
  ring

/-! ## Two layers -/

/-- The power of each of two layers, over both antennas. -/
def layerPowers : R × R :=
  (∑ antenna, (layerGains channel entry antenna).1.power,
    ∑ antenna, (layerGains channel entry antenna).2.power)

/-- What two layers have in common. -/
def layerCross : Phasor R :=
  let (a, b) := layerGains channel entry ⟨0, Nat.zero_lt_two⟩
  let (c, d) := layerGains channel entry ⟨1, Nat.one_lt_two⟩
  a.conj * b + c.conj * d

/-- One more than the power of each layer over the noise. The receiver divides by that of the other
layer. -/
def layerLoads : R × R :=
  (1 + (layerPowers channel entry).1 / noise, 1 + (layerPowers channel entry).2 / noise)

/-- The SINR of each of two layers. -/
def layerSinrs : R × R :=
  let (first, second) := layerLoads channel entry noise
  let det := first * second - (layerCross channel entry).power / (noise * noise)
  (det / second - 1, det / first - 1)

theorem twoLayerSinr_eq :
    twoLayerSinr channel entry noise =
      ((layerSinrs channel entry noise).1 + (layerSinrs channel entry noise).2) / 2 := by
  simp [twoLayerSinr, layerSinrs, layerLoads, layerPowers, layerCross, Fin.sum_univ_two,
    Phasor.power_shrink]

end Fields

/-! ## Signs -/

section OrderedFields

variable {R : Type} [Field R] [LinearOrder R] [IsStrictOrderedRing R]

omit [IsStrictOrderedRing R] in
theorem flooredNoise_eq (noise : R) : flooredNoise noise = max noise (1 / 1000000) := by
  simp only [flooredNoise, noiseFloor, Nat.cast_one, Nat.cast_ofNat]
  split
  next habove => exact (max_eq_left habove.le).symm
  next hbelow => exact (max_eq_right (not_lt.mp hbelow)).symm

theorem flooredNoise_pos (noise : R) : 0 < flooredNoise noise := by
  rw [flooredNoise_eq]
  exact lt_max_of_lt_right (by positivity)

variable (channel : ChannelMatrix R) (entry : Fin 4) {noise : R}

theorem oneLayerSinr_nonneg (hnoise : 0 < noise) : 0 ≤ oneLayerSinr channel entry noise := by
  rw [oneLayerSinr_eq]
  exact div_nonneg (Finset.sum_nonneg fun _ _ => Phasor.power_nonneg _) (by positivity)

theorem layerPowers_nonneg :
    0 ≤ (layerPowers channel entry).1 ∧ 0 ≤ (layerPowers channel entry).2 := by
  simp only [layerPowers]
  constructor <;> exact Finset.sum_nonneg fun _ _ => Phasor.power_nonneg _

theorem layerLoads_pos (hnoise : 0 < noise) :
    0 < (layerLoads channel entry noise).1 ∧ 0 < (layerLoads channel entry noise).2 := by
  obtain ⟨hfirst, hsecond⟩ := layerPowers_nonneg channel entry
  simp only [layerLoads]
  constructor <;> positivity

/-- Two layers have no more in common than their powers allow. -/
theorem power_layerCross_le :
    (layerCross channel entry).power ≤
      (layerPowers channel entry).1 * (layerPowers channel entry).2 := by
  let a := (layerGains channel entry 0).1
  let b := (layerGains channel entry 0).2
  let c := (layerGains channel entry 1).1
  let d := (layerGains channel entry 1).2
  have hsplit : (a.conj * b + c.conj * d).power + (a * d - c * b).power =
      (a.power + c.power) * (b.power + d.power) := Phasor.power_conj_mul_add a b c d
  have hrest : 0 ≤ (a * d - c * b).power := Phasor.power_nonneg _
  simp only [layerPowers, Fin.sum_univ_two]
  show (a.conj * b + c.conj * d).power ≤ (a.power + c.power) * (b.power + d.power)
  linarith

/-- The share of one layer, when what it has in common with the other is bounded. -/
theorem layerShare_nonneg {own other common : R} (hown : 0 ≤ own) (hother : 0 ≤ other)
    (hcommon : common ≤ own * other) :
    0 ≤ ((1 + own) * (1 + other) - common) / (1 + other) - 1 := by
  have hload : 0 < 1 + other := by positivity
  rw [sub_nonneg, le_div_iff₀ hload]
  calc 1 * (1 + other)
    _ ≤ (1 + own) * (1 + other) - own * other := by linarith
    _ ≤ (1 + own) * (1 + other) - common := by linarith

/-- **Neither of two layers has a SINR below zero**, whatever the channel is. -/
theorem layerSinrs_nonneg (hnoise : 0 < noise) :
    0 ≤ (layerSinrs channel entry noise).1 ∧ 0 ≤ (layerSinrs channel entry noise).2 := by
  obtain ⟨hfirst, hsecond⟩ := layerPowers_nonneg channel entry
  have hown : 0 ≤ (layerPowers channel entry).1 / noise := by positivity
  have hother : 0 ≤ (layerPowers channel entry).2 / noise := by positivity
  have hcommon : (layerCross channel entry).power / (noise * noise) ≤
      (layerPowers channel entry).1 / noise * ((layerPowers channel entry).2 / noise) := by
    rw [div_mul_div_comm]
    exact div_le_div_of_nonneg_right (power_layerCross_le channel entry) (by positivity)
  have hsecondLayer := layerShare_nonneg hother hown (hcommon.trans_eq (mul_comm _ _))
  rw [mul_comm (1 + (layerPowers channel entry).2 / noise)] at hsecondLayer
  exact ⟨layerShare_nonneg hown hother hcommon, hsecondLayer⟩

theorem twoLayerSinr_nonneg (hnoise : 0 < noise) : 0 ≤ twoLayerSinr channel entry noise := by
  obtain ⟨hfirst, hsecond⟩ := layerSinrs_nonneg channel entry hnoise
  rw [twoLayerSinr_eq]
  exact div_nonneg (add_nonneg hfirst hsecond) zero_le_two

end OrderedFields

end LteReceiver
