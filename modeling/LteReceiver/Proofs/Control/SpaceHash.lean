import LteReceiver.Control.SearchSpace
import Mathlib.FieldTheory.Finite.Basic
import Mathlib.Tactic.NormNum.Prime

/-!
# The hash of the search spaces

One multiplication for every subframe up to the current one makes a power of the multiplier. The
numbers on the way are far from the end of 64-bit words, so the words come to that power modulo the
modulus (`toNat_hashWord`). The modulus is a prime, so by Fermat's little theorem the powers come
back to 1 after `hashPeriod` of them, and the hash of a subframe needs no more multiplications than
that (`spaceHash_mod_hashPeriod`).

A power of the multiplier is prime to the modulus, and identities are below the modulus. So in
every subframe different identities have different hashes (`spaceHash_inj`).
-/

namespace LteReceiver

theorem prime_hashModulus : hashModulus.toNat.Prime := by
  show Nat.Prime 65537
  norm_num

theorem coprime_hashMultiplier : hashMultiplier.toNat.Coprime hashModulus.toNat := by
  show Nat.Coprime 39827 65537
  norm_num

/-! ## Words -/

/-- The multiplier times a number below the modulus is a word. -/
theorem toNat_hashStep {word : UInt64} (h : word.toNat < hashModulus.toNat) :
    hashMultiplier.toNat * word.toNat < UInt64.size ∧
      (hashStep word).toNat = hashMultiplier.toNat * word.toNat % hashModulus.toNat := by
  have hproduct : hashMultiplier.toNat * word.toNat < UInt64.size :=
    (Nat.mul_lt_mul_of_pos_left h (by decide)).trans (by decide)
  refine ⟨hproduct, ?_⟩
  rw [hashStep, UInt64.toNat_mod, UInt64.toNat_mul]
  exact congrArg (· % hashModulus.toNat) (Nat.mod_eq_of_lt hproduct)

theorem toNat_lt_hashModulus (rnti : Rnti) : rnti.value.toNat < hashModulus.toNat :=
  rnti.value.toNat_lt.trans (by decide)

theorem toNat_hashWord_lt (rnti : Rnti) (steps : Nat) :
    (hashWord rnti steps).toNat < hashModulus.toNat := by
  induction steps with
  | zero => exact toNat_lt_hashModulus rnti
  | succ steps ih =>
    rw [hashWord, (toNat_hashStep ih).2]
    exact Nat.mod_lt _ (by decide)

/-- The hash in closed form. -/
theorem toNat_hashWord (rnti : Rnti) (steps : Nat) :
    (hashWord rnti steps).toNat =
      hashMultiplier.toNat ^ steps * rnti.value.toNat % hashModulus.toNat := by
  induction steps with
  | zero =>
    rw [pow_zero, one_mul, Nat.mod_eq_of_lt (toNat_lt_hashModulus rnti)]
    rfl
  | succ steps ih =>
    rw [hashWord, (toNat_hashStep (toNat_hashWord_lt rnti steps)).2, ih, Nat.mul_mod_mod,
      ← mul_assoc, ← pow_succ']

/-! ## The period -/

/-- Fermat's little theorem for the multiplier. -/
theorem hashMultiplier_pow_hashPeriod :
    hashMultiplier.toNat ^ hashPeriod ≡ 1 [MOD hashModulus.toNat] := by
  have hperiod : hashModulus.toNat.totient = hashPeriod := Nat.totient_prime prime_hashModulus
  rw [← hperiod]
  exact Nat.ModEq.pow_totient coprime_hashMultiplier

theorem hashMultiplier_pow_mod (exponent : Nat) :
    hashMultiplier.toNat ^ exponent ≡ hashMultiplier.toNat ^ (exponent % hashPeriod)
      [MOD hashModulus.toNat] :=
  calc
    hashMultiplier.toNat ^ exponent =
        (hashMultiplier.toNat ^ hashPeriod) ^ (exponent / hashPeriod) *
          hashMultiplier.toNat ^ (exponent % hashPeriod) := by
      rw [← pow_mul, ← pow_add, Nat.div_add_mod]
    _ ≡ 1 ^ (exponent / hashPeriod) * hashMultiplier.toNat ^ (exponent % hashPeriod)
        [MOD hashModulus.toNat] :=
      (hashMultiplier_pow_hashPeriod.pow _).mul_right _
    _ = hashMultiplier.toNat ^ (exponent % hashPeriod) := by rw [one_pow, one_mul]

/-- **The hash depends on the subframe only up to its period.** -/
theorem spaceHash_mod_hashPeriod (rnti : Rnti) (subframe : Nat) :
    spaceHash rnti (subframe % hashPeriod) = spaceHash rnti subframe := by
  apply UInt64.toNat_inj.mp
  rw [spaceHash, spaceHash, toNat_hashWord, toNat_hashWord, pow_succ, pow_succ]
  exact ((hashMultiplier_pow_mod subframe).symm.mul_right _).mul_right _

/-! ## Identities -/

/-- **Terminals are told apart in every subframe.** -/
theorem spaceHash_inj {rnti other : Rnti} {subframe : Nat} :
    spaceHash rnti subframe = spaceHash other subframe ↔ rnti = other := by
  constructor
  · intro h
    have hnat := congrArg UInt64.toNat h
    rw [spaceHash, spaceHash, toNat_hashWord, toNat_hashWord] at hnat
    have hcoprime : hashModulus.toNat.Coprime (hashMultiplier.toNat ^ (subframe + 1)) :=
      (coprime_hashMultiplier.pow_left _).symm
    have hcancelled : rnti.value.toNat ≡ other.value.toNat [MOD hashModulus.toNat] :=
      Nat.ModEq.cancel_left_of_coprime hcoprime hnat
    have hvalue : rnti.value.toNat = other.value.toNat :=
      hcancelled.eq_of_lt_of_lt (toNat_lt_hashModulus rnti) (toNat_lt_hashModulus other)
    cases rnti
    cases other
    exact congrArg Rnti.mk (UInt16.toNat_inj.mp hvalue)
  · rintro rfl
    rfl

theorem spaceHash_zero (subframe : Nat) : spaceHash ⟨0⟩ subframe = 0 := by
  apply UInt64.toNat_inj.mp
  rw [spaceHash, toNat_hashWord]
  exact Nat.zero_mod _

/--
**The hash of a terminal in any subframe.**

It is the identity times a power of 39827, modulo 65537. No product on the way leaves a 64-bit word.
It is zero only for the identity zero, and two identities have the same hash in a subframe only if
they are the same.
-/
theorem hash_of_rnti (rnti other : Rnti) (subframe : Nat) :
    (spaceHash rnti subframe).toNat = rnti.value.toNat * 39827 ^ (subframe + 1) % 65537 ∧
    (∀ steps, 39827 * (hashWord rnti steps).toNat < UInt64.size) ∧
    (spaceHash rnti subframe = 0 ↔ rnti.value = 0) ∧
    (spaceHash rnti subframe = spaceHash other subframe ↔ rnti = other) := by
  refine ⟨?_, fun steps => (toNat_hashStep (toNat_hashWord_lt rnti steps)).1, ?_, spaceHash_inj⟩
  · rw [spaceHash, toNat_hashWord, mul_comm]
    rfl
  · rw [← spaceHash_zero subframe, spaceHash_inj]
    constructor
    · rintro rfl
      rfl
    · intro h
      cases rnti
      exact congrArg Rnti.mk h

end LteReceiver
