import Mathlib.Order.Interval.Set.UnorderedInterval
import ViewMotion.Proofs.Easing

/-!
This module contains the way on which a motion takes its view if everything is computed exactly: it
leads from the departure to the destination, and whoever is on it only comes closer.
-/

namespace ViewMotion

namespace Scalar

theorem lerp_zero (a b : Rat) : Scalar.lerp a b 0 = a := by
  unfold Scalar.lerp
  rw [mul_zero, add_zero]

theorem lerp_one (a b : Rat) : Scalar.lerp a b 1 = b := by
  unfold Scalar.lerp
  rw [mul_one, add_sub_cancel]

theorem lerp_mem_uIcc (a b : Rat) {s t : Rat} (hst : s ≤ t) (ht : t ≤ 1) :
    Scalar.lerp a b t ∈ Set.uIcc (Scalar.lerp a b s) b := by
  have hend := lerp_one a b
  unfold Scalar.lerp at *
  rw [Set.mem_uIcc]
  cases le_total a b with
  | inl hle =>
    have hway : 0 ≤ b - a := sub_nonneg.mpr hle
    left
    constructor
    · exact add_le_add_right (mul_le_mul_of_nonneg_left hst hway) a
    · calc
        a + (b - a) * t ≤ a + (b - a) * 1 :=
          add_le_add_right (mul_le_mul_of_nonneg_left ht hway) a
        _ = b := hend
  | inr hle =>
    have hway : b - a ≤ 0 := sub_nonpos.mpr hle
    right
    constructor
    · calc
        b = a + (b - a) * 1 := hend.symm
        _ ≤ a + (b - a) * t := add_le_add_right (mul_le_mul_of_nonpos_left ht hway) a
    · exact add_le_add_right (mul_le_mul_of_nonpos_left hst hway) a

end Scalar

namespace Rect

/--
Each component lies between those of the two other rectangles, whichever of them is the larger.
-/
structure Between (a b r : Rect Rat) : Prop where
  x : r.origin.x ∈ Set.uIcc a.origin.x b.origin.x
  y : r.origin.y ∈ Set.uIcc a.origin.y b.origin.y
  width : r.size.width ∈ Set.uIcc a.size.width b.size.width
  height : r.size.height ∈ Set.uIcc a.size.height b.size.height

variable (a b : Rect Rat)

theorem lerp_zero : a.lerp b 0 = a := by
  unfold Rect.lerp Point.lerp Size.lerp
  simp only [Scalar.lerp_zero]

theorem lerp_one : a.lerp b 1 = b := by
  unfold Rect.lerp Point.lerp Size.lerp
  simp only [Scalar.lerp_one]

theorem lerp_between {s t : Rat} (hst : s ≤ t) (ht : t ≤ 1) :
    Between (a.lerp b s) b (a.lerp b t) where
  x := Scalar.lerp_mem_uIcc _ _ hst ht
  y := Scalar.lerp_mem_uIcc _ _ hst ht
  width := Scalar.lerp_mem_uIcc _ _ hst ht
  height := Scalar.lerp_mem_uIcc _ _ hst ht

theorem lerp_between_ends {t : Rat} (h : 0 ≤ t) (ht : t ≤ 1) : Between a b (a.lerp b t) := by
  have hbetween := lerp_between a b h ht
  rw [lerp_zero] at hbetween
  exact hbetween

end Rect

namespace Motion

variable (motion : Motion Rat)

theorem progress_rat (now : Instant) :
    motion.progress now =
      if motion.duration.isZero then 1
      else ((now.since motion.began).nanoseconds / motion.duration.nanoseconds : Rat) ⊓ 1 := by
  unfold progress
  split
  · rfl
  · have hnonneg : (0 : Rat) ≤
        (now.since motion.began).nanoseconds / motion.duration.nanoseconds :=
      div_nonneg (Nat.cast_nonneg _) (Nat.cast_nonneg _)
    dsimp only
    rw [Scalar.min_rat, Scalar.max_rat, Duration.inSeconds_rat, Duration.inSeconds_rat,
      div_div_div_cancel_right₀ (by norm_num), sup_eq_right.mpr hnonneg]

theorem progress_le_one (now : Instant) : motion.progress now ≤ 1 := by
  rw [progress_rat]
  split
  · exact le_refl 1
  · exact inf_le_right

theorem progress_mono {t now : Instant} (h : t ≤ now) :
    motion.progress t ≤ motion.progress now := by
  rw [progress_rat, progress_rat]
  split
  · exact le_refl 1
  · have helapsed : (t.since motion.began).nanoseconds ≤ (now.since motion.began).nanoseconds := by
      rw [Instant.le_def] at h
      simp only [Instant.since]
      omega
    apply inf_le_inf_right
    apply div_le_div_of_nonneg_right _ (Nat.cast_nonneg _)
    exact_mod_cast helapsed

/--
The fraction of the way that is covered. At the end it is 1, although the end is not computed.
-/
def covered (now : Instant) : Rat := motion.easing.fraction (motion.progress now)

theorem rectAt_eq_lerp (now : Instant) :
    motion.rectAt now = motion.departure.lerp motion.destination (motion.covered now) := by
  unfold rectAt covered
  split
  · next hdone =>
    have hprogress : motion.progress now = 1 :=
      le_antisymm (motion.progress_le_one now) (of_decide_eq_true hdone)
    rw [hprogress, Easing.fraction_one, Rect.lerp_one]
  · rfl

theorem covered_mono {t now : Instant} (h : t ≤ now) : motion.covered t ≤ motion.covered now :=
  motion.easing.fraction_mono (motion.progress_mono h)

theorem covered_nonneg (now : Instant) : 0 ≤ motion.covered now :=
  motion.easing.fraction_nonneg (motion.progress now)

theorem covered_le_one (now : Instant) : motion.covered now ≤ 1 :=
  motion.easing.fraction_le_one (motion.progress now)

theorem covered_of_le_began (hduration : ¬ motion.duration.isZero) {now : Instant}
    (h : now ≤ motion.began) : motion.covered now = 0 := by
  have helapsed : (now.since motion.began).nanoseconds = 0 := by
    rw [Instant.le_def] at h
    simp only [Instant.since]
    omega
  unfold covered
  rw [progress_rat, if_neg hduration, helapsed, Nat.cast_zero, zero_div,
    inf_eq_left.mpr zero_le_one, Easing.fraction_zero]

theorem isDone_of_le {now : Instant} (h : motion.began.after motion.duration ≤ now) :
    motion.isDone now := by
  rw [Instant.le_def] at h
  rw [isDone_rat_iff]
  simp only [Instant.since, Instant.after] at h ⊢
  omega

theorem never_turns_back :
    (∀ t now, t ≤ now →
      Rect.Between (motion.rectAt t) motion.destination (motion.rectAt now) ∧
      Rect.Between motion.departure motion.destination (motion.rectAt t) ∧
      Rect.Between motion.departure motion.destination (motion.rectAt now)) ∧
    (¬ motion.duration.isZero → ∀ now ≤ motion.began, motion.rectAt now = motion.departure) ∧
    (∀ now, motion.began.after motion.duration ≤ now →
      motion.rectAt now = motion.destination) ∧
    ∀ easing : Easing, easing.fraction (0 : Rat) = 0 ∧ easing.fraction (1 : Rat) = 1 ∧
      (∀ t : Rat, easing.fraction t ∈ Set.Icc 0 1) ∧
      Monotone (easing.fraction : Rat → Rat) := by
  have hway (now : Instant) :
      Rect.Between motion.departure motion.destination (motion.rectAt now) := by
    rw [rectAt_eq_lerp]
    exact Rect.lerp_between_ends _ _ (motion.covered_nonneg now) (motion.covered_le_one now)
  refine ⟨?_, ?_, ?_, ?_⟩
  · intro t now hle
    refine ⟨?_, hway t, hway now⟩
    rw [rectAt_eq_lerp, rectAt_eq_lerp]
    exact Rect.lerp_between _ _ (motion.covered_mono hle) (motion.covered_le_one now)
  · intro hduration now hle
    rw [rectAt_eq_lerp, motion.covered_of_le_began hduration hle, Rect.lerp_zero]
  · intro now hle
    unfold rectAt
    rw [if_pos (motion.isDone_of_le hle)]
  · intro easing
    refine ⟨easing.fraction_zero, easing.fraction_one, ?_, easing.fraction_mono⟩
    exact fun t => ⟨easing.fraction_nonneg t, easing.fraction_le_one t⟩

theorem never_turns_back_in_flight :
    let motion : Motion Rat := {
      view := ⟨1⟩
      departure := .ofXYWH 0 50 100 100
      destination := .ofXYWH 40 20 100 10
      began := .epoch
      duration := ⟨5⟩
      easing := .easeInOut
      phase := .running
    }
    motion.rectAt ⟨2⟩ = .ofXYWH (64 / 5) (202 / 5) 100 (356 / 5) ∧
      motion.rectAt ⟨3⟩ = .ofXYWH (136 / 5) (148 / 5) 100 (194 / 5) ∧
      Rect.Between (motion.rectAt ⟨2⟩) motion.destination (motion.rectAt ⟨3⟩) ∧
      Rect.Between motion.departure motion.destination (motion.rectAt ⟨2⟩) ∧
      motion.rectAt ⟨-1⟩ = motion.departure ∧ motion.rectAt ⟨5⟩ = motion.destination := by
  intro motion
  have hnever := motion.never_turns_back
  have hway := hnever.1 ⟨2⟩ ⟨3⟩ (by decide)
  refine ⟨by decide +kernel, by decide +kernel, hway.1, hway.2.1, ?_, ?_⟩
  · apply hnever.2.1 (by decide) ⟨-1⟩ (by decide)
  · apply hnever.2.2.1 ⟨5⟩ (by decide)

end Motion

end ViewMotion
