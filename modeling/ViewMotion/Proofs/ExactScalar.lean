import Mathlib.Algebra.Order.Field.Basic
import Mathlib.Algebra.Order.Field.Rat
import Mathlib.Tactic.FieldSimp
import Mathlib.Tactic.NormNum
import ViewMotion.Motion.Basic

/-!
This module contains the exact numbers as scalars, and how far a motion has come if its progress is
computed exactly.
-/

namespace ViewMotion

instance : Scalar Rat where
  decLt a b := inferInstanceAs (Decidable (a < b))
  decLe a b := inferInstanceAs (Decidable (a ≤ b))
  isFinite _ := true

namespace Scalar

theorem isNaN_rat (x : Rat) : isNaN x = false := by
  unfold isNaN
  simp

theorem max_rat (x y : Rat) : Scalar.max x y = x ⊔ y := by
  unfold Scalar.max
  rw [isNaN_rat, isNaN_rat, if_neg Bool.false_ne_true, if_neg Bool.false_ne_true]
  split
  · next h => exact (max_eq_right (le_of_lt h)).symm
  · next h => exact (max_eq_left (not_lt.mp h)).symm

theorem min_rat (x y : Rat) : Scalar.min x y = x ⊓ y := by
  unfold Scalar.min
  rw [isNaN_rat, isNaN_rat, if_neg Bool.false_ne_true, if_neg Bool.false_ne_true]
  split
  · next h => exact (min_eq_right (le_of_lt h)).symm
  · next h => exact (min_eq_left (not_lt.mp h)).symm

theorem one_le_min_rat (x : Rat) : 1 ≤ Scalar.min x 1 ↔ 1 ≤ x := by
  rw [min_rat, le_min_iff]
  exact and_iff_left (le_refl 1)

theorem one_le_max_rat (x : Rat) : 1 ≤ Scalar.max 0 x ↔ 1 ≤ x := by
  have hpos : ¬ (1 : Rat) ≤ 0 := by norm_num
  rw [max_rat, le_max_iff]
  exact or_iff_right hpos

end Scalar

theorem Duration.inSeconds_rat (d : Duration) :
    (d.inSeconds : Rat) = d.nanoseconds / 1000000000 := by
  have hsplit : (d.nanoseconds : Rat) = 1000000000 * d.seconds + d.subsecond := by
    have h := Nat.div_add_mod d.nanoseconds 1000000000
    exact_mod_cast h.symm
  rw [hsplit]
  unfold inSeconds
  field_simp

theorem Motion.isDone_rat_iff (motion : Motion Rat) (now : Instant) :
    motion.isDone now ↔
      motion.duration.nanoseconds ≤ (now.since motion.began).nanoseconds := by
  unfold isDone progress
  rw [decide_eq_true_iff]
  split
  · next hzero =>
    have hzero : motion.duration.nanoseconds = 0 := by
      unfold Duration.isZero at hzero
      rw [beq_iff_eq] at hzero
      exact hzero
    simp [hzero]
  · next hzero =>
    have hpos : (0 : Rat) < motion.duration.nanoseconds := by
      unfold Duration.isZero at hzero
      rw [beq_iff_eq] at hzero
      exact_mod_cast Nat.pos_of_ne_zero hzero
    dsimp only
    rw [Scalar.one_le_min_rat, Scalar.one_le_max_rat, Duration.inSeconds_rat,
      Duration.inSeconds_rat, div_div_div_cancel_right₀ (by norm_num), one_le_div hpos]
    exact_mod_cast Iff.rfl

theorem Motion.isDone_rat_mono (motion : Motion Rat) {t now : Instant} (hle : t ≤ now)
    (h : motion.isDone t) : motion.isDone now := by
  rw [isDone_rat_iff] at h ⊢
  rw [Instant.le_def] at hle
  simp only [Instant.since] at h ⊢
  omega

end ViewMotion
