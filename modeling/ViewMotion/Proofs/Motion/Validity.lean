import ViewMotion.Motion.Basic
import ViewMotion.Proofs.Floating.Easing

/-!
This module contains when the place that a motion computes for its view is a rectangle at all. The
way between two finite numbers need not be a finite number, and nobody asks whether it is.
-/

namespace ViewMotion

open Floating

/--
Half of the largest finite number.
-/
def halfOfLargest : Float := .ofBits 0x7fdfffffffffffff

/--
Two numbers of this kind have a sum and a difference.
-/
def Moderate (x : Float) : Prop := -halfOfLargest ≤ x ∧ x ≤ halfOfLargest

instance (x : Float) : Decidable (Moderate x) :=
  inferInstanceAs (Decidable (_ ∧ _))

theorem Moderate.inRange {x : Float} (h : Moderate x) (hx : x.isFinite) :
    InRange (-(largest / 2)) (largest / 2) x := by
  have hlo : InRange (-(largest / 2)) (-(largest / 2)) (-halfOfLargest) := by decide +kernel
  have hhi : InRange (largest / 2) (largest / 2) halfOfLargest := by decide +kernel
  have hge := (le_iff hlo.finite hx).mp h.1
  have hle := (le_iff hx hhi.finite).mp h.2
  rw [hlo.exact_eq] at hge
  rw [hhi.exact_eq] at hle
  exact ⟨hx, hge, hle⟩

section Way

variable {a b e : Float}

/--
Whoever covers a part of a way ends neither before its beginning nor behind its end.
-/
theorem lerp_inRange {lo hi : Rat} (hlo : Representable lo) (hhi : Representable hi)
    (ha : InRange lo hi a) (hway : (b - a).isFinite) (hge : lo ≤ exact a + exact (b - a))
    (hle : exact a + exact (b - a) ≤ hi) (he : InRange 0 1 e) :
    InRange lo hi (Scalar.lerp a b e) := by
  have hrepresentable := representable_exact hway
  have hadd {p : Float} (hp : p.isFinite) (hge : lo ≤ exact a + exact p)
      (hle : exact a + exact p ≤ hi) : InRange lo hi (a + p) :=
    add_inRange hlo hhi ha.finite hp hge hle
  cases le_total 0 (exact (b - a)) with
  | inl hforth =>
    have hpart : InRange 0 (exact (b - a)) ((b - a) * e) :=
      mul_inRange representable_zero hrepresentable hway he.finite (mul_nonneg hforth he.ge)
        (mul_le_of_le_one_right hforth he.le)
    exact hadd hpart.finite (by linarith [ha.ge, hpart.ge]) (by linarith [hpart.le])
  | inr hback =>
    have hpart : InRange (exact (b - a)) 0 ((b - a) * e) :=
      mul_inRange hrepresentable representable_zero hway he.finite
        (le_mul_of_le_one_right hback he.le) (mul_nonpos_of_nonpos_of_nonneg hback he.ge)
    exact hadd hpart.finite (by linarith [hpart.ge]) (by linarith [ha.le, hpart.le])

variable (ha : InRange (-(largest / 2)) (largest / 2) a)
variable (hb : InRange (-(largest / 2)) (largest / 2) b) (he : InRange 0 1 e)

include ha hb he

omit he in
theorem way_spec : (b - a).isFinite ∧ Rounds (exact b - exact a) (exact (b - a)) :=
  sub_spec hb.finite ha.finite
    (abs_le.mpr ⟨by linarith [ha.le, hb.ge], by linarith [ha.ge, hb.le]⟩)

theorem coordinate_inRange : InRange (-largest) largest (Scalar.lerp a b e) := by
  obtain ⟨hfinite, hrounds⟩ := way_spec ha hb
  have hlargest := representable_largest
  have ha' : InRange (-largest) largest a :=
    ⟨ha.finite, by linarith [ha.ge, ha.le], by linarith [ha.ge, ha.le]⟩
  have hbounds := abs_le.mp (hrounds.representable.abs_le)
  apply lerp_inRange hlargest.neg hlargest ha' hfinite _ _ he
  -- the way is at most as long as the side of zero on which it does not begin allows
  · cases le_total 0 (exact a) with
    | inl hnonneg => linarith
    | inr hnonpos =>
      have hge := hrounds.ge_of_ge (representable_exact hb.finite) (by linarith)
      linarith [ha.ge, hb.ge]
  · cases le_total 0 (exact a) with
    | inl hnonneg =>
      have hle := hrounds.le_of_le (representable_exact hb.finite) (by linarith)
      linarith [ha.le, hb.le]
    | inr hnonpos => linarith

theorem extent_inRange (ha' : 0 ≤ exact a) (hb' : 0 ≤ exact b) :
    InRange 0 largest (Scalar.lerp a b e) := by
  obtain ⟨hfinite, hrounds⟩ := way_spec ha hb
  have hge := hrounds.ge_of_ge (representable_exact ha.finite).neg (by linarith)
  have hle := hrounds.le_of_le (representable_exact hb.finite) (by linarith)
  have ha'' : InRange 0 largest a := ⟨ha.finite, ha', by linarith [ha.le]⟩
  apply lerp_inRange representable_zero representable_largest ha'' hfinite _ _ he
  · linarith
  · linarith [ha.le, hb.le]

end Way

def Point.IsFinite (p : Point Float) : Prop := p.x.isFinite ∧ p.y.isFinite

namespace Rect

structure Moderate (r : Rect Float) : Prop where
  x : ViewMotion.Moderate r.origin.x
  y : ViewMotion.Moderate r.origin.y
  width : ViewMotion.Moderate r.size.width
  height : ViewMotion.Moderate r.size.height

structure Valid (r : Rect Float) : Prop where
  x : r.origin.x.isFinite
  y : r.origin.y.isFinite
  width : r.size.width.isFinite
  height : r.size.height.isFinite
  width_nonneg : 0 ≤ exact r.size.width
  height_nonneg : 0 ≤ exact r.size.height

theorem isValid_iff (r : Rect Float) : r.isValid ↔ r.Valid := by
  have hzero : InRange 0 0 0 := by decide +kernel
  have hnonneg {x : Float} (hx : x.isFinite) : 0 ≤ x ↔ 0 ≤ exact x := by
    rw [← hzero.exact_eq]
    exact le_iff hzero.finite hx
  unfold isValid
  simp only [Bool.and_eq_true, decide_eq_true_eq]
  constructor
  · rintro ⟨⟨⟨⟨⟨hx, hy⟩, hwidth⟩, hheight⟩, hwidth'⟩, hheight'⟩
    exact ⟨hx, hy, hwidth, hheight, (hnonneg hwidth).mp hwidth', (hnonneg hheight).mp hheight'⟩
  · rintro ⟨hx, hy, hwidth, hheight, hwidth', hheight'⟩
    exact ⟨⟨⟨⟨⟨hx, hy⟩, hwidth⟩, hheight⟩, (hnonneg hwidth).mpr hwidth'⟩,
      (hnonneg hheight).mpr hheight'⟩

theorem isValid_iff_isFinite {origin : Point Float} {size : Size Float}
    (hsize : (⟨⟨0, 0⟩, size⟩ : Rect Float).isValid) :
    (⟨origin, size⟩ : Rect Float).isValid ↔ origin.IsFinite := by
  rw [isValid_iff] at hsize ⊢
  constructor
  · exact fun hvalid => ⟨hvalid.x, hvalid.y⟩
  · exact fun ⟨hx, hy⟩ => { hsize with x := hx, y := hy }

theorem lerp_isValid {a b : Rect Float} {t : Float} (ha : a.isValid) (hb : b.isValid)
    (ha' : a.Moderate) (hb' : b.Moderate) (ht : InRange 0 1 t) : (a.lerp b t).isValid := by
  rw [isValid_iff] at *
  have hwidth := extent_inRange (ha'.width.inRange ha.width) (hb'.width.inRange hb.width) ht
    ha.width_nonneg hb.width_nonneg
  have hheight := extent_inRange (ha'.height.inRange ha.height) (hb'.height.inRange hb.height) ht
    ha.height_nonneg hb.height_nonneg
  exact {
    x := (coordinate_inRange (ha'.x.inRange ha.x) (hb'.x.inRange hb.x) ht).finite
    y := (coordinate_inRange (ha'.y.inRange ha.y) (hb'.y.inRange hb.y) ht).finite
    width := hwidth.finite
    height := hheight.finite
    width_nonneg := hwidth.ge
    height_nonneg := hheight.ge
  }

end Rect

namespace Motion

/--
Not only the end of the way is valid, but all of it, as long as no number is so large that the
difference of two of them might be none.
-/
theorem rectAt_isValid (motion : Motion Float) (hdeparture : motion.departure.isValid)
    (hdestination : motion.destination.isValid) (now : Instant)
    (h : motion.isDone now ∨ motion.departure.Moderate ∧ motion.destination.Moderate) :
    (motion.rectAt now).isValid := by
  unfold rectAt
  split
  · exact hdestination
  · next hdone =>
    obtain ⟨hdeparture', hdestination'⟩ := h.resolve_left hdone
    exact Rect.lerp_isValid hdeparture hdestination hdeparture' hdestination'
      (Easing.fraction_inRange motion.easing (motion.progress now))

theorem rectAt_isValid_in_flight :
    let motion : Motion Float := {
      view := ⟨1⟩
      departure := .ofXYWH (-8e307) 0 10 0
      destination := .ofXYWH 8e307 50 0 10
      began := .epoch
      duration := .ofMilliseconds 100
      easing := .fastInOut
      phase := .running
    }
    motion.departure.isValid ∧ motion.destination.isValid ∧
      ¬ motion.isDone ⟨30000000⟩ ∧ (motion.rectAt ⟨30000000⟩).isValid := by
  intro motion
  have hdeparture : motion.departure.isValid := by decide +kernel
  have hdestination : motion.destination.isValid := by decide +kernel
  have hmoderate : motion.departure.Moderate ∧ motion.destination.Moderate := by
    constructor <;> constructor <;> decide +kernel
  refine ⟨hdeparture, hdestination, by decide +kernel, ?_⟩
  exact rectAt_isValid motion hdeparture hdestination ⟨30000000⟩ (Or.inr hmoderate)

/--
The difference of two finite numbers may be infinite, and nothing of it is no number.
-/
theorem rectAt_not_isValid :
    let motion : Motion Float := {
      view := ⟨1⟩
      departure := .ofXYWH (-1e308) 0 10 10
      destination := .ofXYWH 1e308 0 10 10
      began := .epoch
      duration := .ofMilliseconds 100
      easing := .zero
      phase := .running
    }
    motion.departure.isValid ∧ motion.destination.isValid ∧
      ¬ (motion.rectAt ⟨50000000⟩).isValid ∧
      Scalar.isNaN (motion.rectAt ⟨50000000⟩).origin.x ∧
      ∀ easing : Easing, ¬ ({ motion with easing }.rectAt ⟨50000000⟩).isValid := by
  intro motion
  refine ⟨by decide +kernel, by decide +kernel, by decide +kernel, by decide +kernel, ?_⟩
  intro easing
  cases easing <;> decide +kernel

end Motion

end ViewMotion
