import ViewMotion.Easing
import ViewMotion.Proofs.Floating.Interval

/-!
This module contains what the curves have in common if they are computed with rounding: whatever the
progress is, the fraction of the way that is covered is neither negative nor more than all of it.
-/

namespace ViewMotion.Easing

open Floating

section Unit

theorem inRange_zero : InRange 0 0 0 := by decide +kernel

theorem inRange_one : InRange 1 1 1 := by decide +kernel

theorem isNaN_one : Scalar.isNaN (1 : Float) = false := by decide +kernel

theorem one_le_one : (1 : Float) ≤ 1 :=
  (le_iff inRange_one.finite inRange_one.finite).mpr (le_refl _)

variable {x y : Float} (hx : InRange 0 1 x)

include hx

theorem complement_inRange : InRange 0 1 (1 - x) := by
  have hone := inRange_one.exact_eq
  apply sub_inRange inRange_zero.representable inRange_one.representable inRange_one.finite
    hx.finite
  · linarith [hx.le]
  · linarith [hx.ge]

theorem product_inRange (hy : InRange 0 1 y) : InRange 0 1 (x * y) :=
  mul_inRange inRange_zero.representable inRange_one.representable hx.finite hy.finite
    (mul_nonneg hx.ge hy.ge) (mul_le_one₀ hx.le hy.ge hy.le)

end Unit

theorem product_inRange_symmetric {p q r : Rat} {x y : Float} (hx : InRange (-p) p x)
    (hy : InRange (-q) q y) (hr : Representable r) (hle : p * q ≤ r) : InRange (-r) r (x * y) := by
  have habs : |exact x * exact y| ≤ r := by
    have hx' : |exact x| ≤ p := abs_le.mpr ⟨hx.ge, hx.le⟩
    have hy' : |exact y| ≤ q := abs_le.mpr ⟨hy.ge, hy.le⟩
    rw [abs_mul]
    exact (mul_le_mul hx' hy' (abs_nonneg _) ((abs_nonneg _).trans hx')).trans hle
  exact mul_inRange hr.neg hr hx.finite hy.finite (abs_le.mp habs).1 (abs_le.mp habs).2

section Curves

variable {t : Float} (ht : InRange 0 1 t)

include ht

theorem easeInOut_inRange : InRange 0 1 (easeInOut.curve t) := by
  have htwo : InRange 2 2 2 := by decide +kernel
  have hhalf : InRange (1 / 2) (1 / 2) (1 / 2) := by decide +kernel
  have hdouble {x : Float} (hx : InRange 0 (1 / 2) x) : InRange 0 1 (2 * x) := by
    have htwo' := htwo.exact_eq
    apply mul_inRange inRange_zero.representable inRange_one.representable htwo.finite hx.finite
    · rw [htwo']
      linarith [hx.ge]
    · rw [htwo']
      linarith [hx.le]
  change InRange 0 1 (if t < 1 / 2 then 2 * t * t else 1 - 2 * (1 - t) * (1 - t))
  split
  · next hlt =>
    rw [lt_iff ht.finite hhalf.finite, hhalf.exact_eq] at hlt
    exact product_inRange (hdouble ⟨ht.finite, ht.ge, hlt.le⟩) ht
  · next hge =>
    rw [lt_iff ht.finite hhalf.finite, hhalf.exact_eq] at hge
    have hrest : InRange 0 (1 / 2) (1 - t) := by
      have hone := inRange_one.exact_eq
      apply sub_inRange inRange_zero.representable hhalf.representable inRange_one.finite ht.finite
      · linarith [ht.le]
      · linarith
    exact complement_inRange (product_inRange (hdouble hrest) (complement_inRange ht))

theorem fastInOut_inRange : InRange 0 1 (fastInOut.curve t) := by
  have hhalf : InRange (1 / 2) (1 / 2) (1 / 2) := by decide +kernel
  have hquarter : InRange (1 / 4) (1 / 4) (1 / 4) := by decide +kernel
  have heighth : InRange (1 / 8) (1 / 8) (1 / 8) := by decide +kernel
  have hhalf' := hhalf.exact_eq
  have heighth' := heighth.exact_eq
  have hshifted : InRange (-(1 / 2)) (1 / 2) (t - 1 / 2) := by
    apply sub_inRange hhalf.representable.neg hhalf.representable ht.finite hhalf.finite
    · linarith [ht.ge]
    · linarith [ht.le]
  have hsquare := product_inRange_symmetric hshifted hshifted hquarter.representable (by norm_num)
  have hcube := product_inRange_symmetric hshifted hsquare heighth.representable (by norm_num)
  have hraised : InRange 0 (1 / 4) (curve.cube (t - 1 / 2) + 1 / 8) := by
    apply add_inRange inRange_zero.representable hquarter.representable hcube.finite heighth.finite
    · linarith [hcube.ge]
    · linarith [hcube.le]
  change InRange 0 1 ((curve.cube (t - 1 / 2) + 1 / 8) / (1 / 4))
  have hne : exact (1 / 4) ≠ 0 := by
    rw [hquarter.exact_eq]
    norm_num
  apply div_inRange inRange_zero.representable inRange_one.representable hraised.finite
    hquarter.finite hne
  · rw [hquarter.exact_eq]
    linarith [hraised.ge]
  · rw [hquarter.exact_eq]
    linarith [hraised.le]

theorem curve_inRange (easing : Easing) : InRange 0 1 (easing.curve t) := by
  cases easing with
  | linear => exact ht
  | easeIn => exact product_inRange ht ht
  | easeOut =>
    have hrest := complement_inRange ht
    exact complement_inRange (product_inRange hrest hrest)
  | easeInOut => exact easeInOut_inRange ht
  | fastInOut => exact fastInOut_inRange ht
  | zero =>
    change InRange 0 1 (if _ then _ else _)
    split
    · decide +kernel
    · decide +kernel

end Curves

/--
Every progress is brought between 0 and 1, even one that is infinite or no number.
-/
theorem clamp_inRange (t : Float) : InRange 0 1 (clamp t) := by
  unfold clamp
  split
  · decide +kernel
  · rcases Scalar.max_zero_cases t with heq | ⟨hpos, heq⟩
    · rw [heq]
      decide +kernel
    · have hzero := inRange_zero.finite
      have hone := inRange_one.finite
      rw [heq]
      unfold Scalar.min
      rw [LawfulScalar.isNaN_of_pos hpos, isNaN_one, if_neg Bool.false_ne_true,
        if_neg Bool.false_ne_true]
      split
      · decide +kernel
      · next hle =>
        have ht : t.isFinite := isFinite_of_lt_of_not_lt hzero hone hpos hle
        have hpos' := (lt_iff hzero ht).mp hpos
        have hle' := (lt_iff hone ht).not.mp hle
        rw [inRange_zero.exact_eq] at hpos'
        rw [inRange_one.exact_eq] at hle'
        exact ⟨ht, hpos'.le, not_lt.mp hle'⟩

theorem fraction_inRange (easing : Easing) (t : Float) : InRange 0 1 (easing.fraction t) :=
  curve_inRange (clamp_inRange t) easing

end ViewMotion.Easing
