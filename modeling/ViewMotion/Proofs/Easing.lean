import Mathlib.Tactic.Linarith
import Mathlib.Tactic.Ring
import ViewMotion.Proofs.ExactScalar

/-!
This module contains what the curves have in common if they are computed exactly: they lead from 0
to 1, and they never fall.
-/

namespace ViewMotion.Easing

theorem clamp_rat (t : Rat) : clamp t = (0 ⊔ t) ⊓ 1 := by
  unfold clamp
  rw [Scalar.isNaN_rat, if_neg Bool.false_ne_true, Scalar.min_rat, Scalar.max_rat]

theorem clamp_nonneg (t : Rat) : 0 ≤ clamp t := by
  rw [clamp_rat]
  exact le_inf le_sup_left zero_le_one

theorem clamp_le_one (t : Rat) : clamp t ≤ 1 := by
  rw [clamp_rat]
  exact inf_le_right

theorem clamp_mono : Monotone (clamp : Rat → Rat) := by
  intro s t hst
  rw [clamp_rat, clamp_rat]
  exact inf_le_inf_right 1 (sup_le_sup_left hst 0)

theorem curve_zero (easing : Easing) : easing.curve (0 : Rat) = 0 := by
  cases easing <;> decide +kernel

theorem curve_one (easing : Easing) : easing.curve (1 : Rat) = 1 := by
  cases easing <;> decide +kernel

theorem cube_mono {x y : Rat} (h : x ≤ y) : curve.cube x ≤ curve.cube y := by
  have hpow (x : Rat) : curve.cube x = x ^ 3 := by
    unfold curve.cube
    ring
  have hodd : Odd 3 := by decide
  rw [hpow, hpow]
  exact hodd.pow_le_pow.mpr h

theorem easeInOut_eq (t : Rat) :
    easeInOut.curve t =
      if t < 1 / 2 then 2 * (t * t) else 1 - 2 * ((1 - t) * (1 - t)) := by
  rw [← mul_assoc, ← mul_assoc]
  rfl

theorem fastInOut_eq (t : Rat) :
    fastInOut.curve t = (curve.cube (t - 1 / 2) + 1 / 8) / (1 / 4) := rfl

theorem zero_eq (t : Rat) : zero.curve t = if t < 1 then 0 else 1 := rfl

section Rising

variable {s t : Rat} (hs : 0 ≤ s) (hst : s ≤ t) (ht : t ≤ 1)

include hst ht in
theorem square_rest_le : (1 - t) * (1 - t) ≤ (1 - s) * (1 - s) :=
  mul_self_le_mul_self (sub_nonneg.mpr ht) (sub_le_sub_left hst 1)

include hs hst ht

theorem easeInOut_mono : easeInOut.curve s ≤ easeInOut.curve t := by
  rw [easeInOut_eq, easeInOut_eq]
  split
  · next hs' =>
    split
    · have hsquare : s * s ≤ t * t := mul_self_le_mul_self hs hst
      linarith
    · next ht' =>
      -- the halves meet at 1 / 2, which neither of them passes
      have hfirst : s * s ≤ 1 / 2 * (1 / 2) := mul_self_le_mul_self hs (le_of_lt hs')
      have hsecond : (1 - t) * (1 - t) ≤ (1 - 1 / 2) * (1 - 1 / 2) :=
        square_rest_le (not_lt.mp ht') ht
      linarith
  · next hs' =>
    have ht' : ¬ t < 1 / 2 := fun h => hs' (lt_of_le_of_lt hst h)
    have hrest := square_rest_le hst ht
    rw [if_neg ht']
    linarith

theorem curve_mono (easing : Easing) : easing.curve s ≤ easing.curve t := by
  cases easing with
  | linear => exact hst
  | easeIn => exact mul_self_le_mul_self hs hst
  | easeOut => exact sub_le_sub_left (square_rest_le hst ht) 1
  | easeInOut => exact easeInOut_mono hs hst ht
  | fastInOut =>
    have hcube := cube_mono (sub_le_sub_right hst (1 / 2))
    rw [fastInOut_eq, fastInOut_eq]
    linarith
  | zero =>
    rw [zero_eq, zero_eq]
    split
    · split
      · exact le_refl 0
      · exact zero_le_one
    · next hs' =>
      have ht' : ¬ t < 1 := fun h => hs' (lt_of_le_of_lt hst h)
      rw [if_neg ht']

end Rising

variable (easing : Easing)

theorem fraction_of_mem {t : Rat} (h : 0 ≤ t) (h' : t ≤ 1) :
    easing.fraction t = easing.curve t := by
  unfold fraction
  rw [clamp_rat, sup_eq_right.mpr h, inf_eq_left.mpr h']

theorem fraction_zero : easing.fraction (0 : Rat) = 0 := by
  rw [fraction_of_mem easing (le_refl 0) zero_le_one]
  exact easing.curve_zero

theorem fraction_one : easing.fraction (1 : Rat) = 1 := by
  rw [fraction_of_mem easing zero_le_one (le_refl 1)]
  exact easing.curve_one

theorem fraction_mono : Monotone (easing.fraction : Rat → Rat) := by
  intro s t hst
  exact curve_mono (clamp_nonneg s) (clamp_mono hst) (clamp_le_one t) easing

theorem fraction_nonneg (t : Rat) : 0 ≤ easing.fraction t := by
  rw [← easing.curve_zero]
  exact curve_mono (le_refl 0) (clamp_nonneg t) (clamp_le_one t) easing

theorem fraction_le_one (t : Rat) : easing.fraction t ≤ 1 := by
  rw [← easing.curve_one]
  exact curve_mono (clamp_nonneg t) (clamp_le_one t) (le_refl 1) easing

end ViewMotion.Easing
