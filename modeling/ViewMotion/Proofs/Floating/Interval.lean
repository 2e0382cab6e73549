import ViewMotion.Proofs.Floating.Arithmetic
import ViewMotion.Proofs.LawfulScalar

/-!
This module contains floating point numbers as scalars, and the intervals that operations on them do
not leave. An operation whose exact result lies between two numbers that need no rounding cannot
overflow, and its rounded result lies between the two as well.
-/

namespace ViewMotion

open Float.Model Float.Model.UnpackedFloat

namespace Floating

theorem lt_def (x y : Float) : x < y ↔ x.toModel.unpack.lt y.toModel.unpack := by
  change decide _ = true ↔ _
  exact decide_eq_true_iff

/--
What has a finite number on both of its sides is finite.
-/
theorem isFinite_of_lt_of_not_lt {x y z : Float} (hx : x.isFinite) (hz : z.isFinite)
    (hlt : x < y) (hnot : ¬ z < y) : y.isFinite := by
  rw [lt_def] at hlt hnot
  change y.toModel.unpack.isFinite = true
  replace hx := (fits_unpack_iff _).mpr hx
  replace hz := (fits_unpack_iff _).mpr hz
  generalize x.toModel.unpack = a at *
  generalize y.toModel.unpack = u at *
  generalize z.toModel.unpack = b at *
  cases u with
  | finite s m e hm => rfl
  | zero s => rfl
  | infinity s =>
    cases s with
    | negative =>
      obtain ⟨s, rfl⟩ | ⟨s, m, e, hm, rfl, -⟩ := hx.zero_or_finite
      · exact Bool.noConfusion hlt
      · cases s <;> exact Bool.noConfusion hlt
    | positive =>
      refine absurd ?_ hnot
      obtain ⟨s, rfl⟩ | ⟨s, m, e, hm, rfl, -⟩ := hz.zero_or_finite
      · rfl
      · cases s <;> rfl
  | notANumber => cases a <;> exact Bool.noConfusion hlt

end Floating

theorem Scalar.isNaN_float_iff (x : Float) : Scalar.isNaN x ↔ x = Float.nan := by
  change (!(x == x)) = true ↔ _
  rw [Bool.not_eq_true', Float.beq_self_eq_false_iff]

instance : LawfulScalar Float where
  isNaN_zero := by decide +kernel
  isNaN_of_pos {x} h := by
    rw [Bool.eq_false_iff, ne_eq, Scalar.isNaN_float_iff]
    rintro rfl
    have hnot : ¬ (0 : Float) < Float.nan := by decide +kernel
    exact hnot h
  beq_of_isNaN {x} h y := by
    rw [Scalar.isNaN_float_iff] at h
    rw [h]
    exact Float.beq_nan_eq_false y

namespace Floating

structure InRange (lo hi : Rat) (x : Float) : Prop where
  finite : x.isFinite
  ge : lo ≤ exact x
  le : exact x ≤ hi

instance (lo hi : Rat) (x : Float) : Decidable (InRange lo hi x) :=
  decidable_of_iff (x.isFinite ∧ lo ≤ exact x ∧ exact x ≤ hi)
    ⟨fun ⟨h, hge, hle⟩ => ⟨h, hge, hle⟩, fun ⟨h, hge, hle⟩ => ⟨h, hge, hle⟩⟩

theorem InRange.exact_eq {q : Rat} {x : Float} (h : InRange q q x) : exact x = q :=
  le_antisymm h.le h.ge

theorem InRange.representable {q : Rat} {x : Float} (h : InRange q q x) : Representable q := by
  rw [← h.exact_eq]
  exact representable_exact h.finite

section Operations

variable {lo hi : Rat} (hlo : Representable lo) (hhi : Representable hi)

include hlo hhi

theorem inRange_of_spec {v : Rat} {z : Float}
    (hspec : |v| ≤ largest → z.isFinite ∧ Rounds v (exact z)) (hge : lo ≤ v) (hle : v ≤ hi) :
    InRange lo hi z := by
  have habs : |v| ≤ largest :=
    abs_le.mpr ⟨(abs_le.mp hlo.abs_le).1.trans hge, hle.trans (abs_le.mp hhi.abs_le).2⟩
  obtain ⟨hfinite, hrounds⟩ := hspec habs
  exact ⟨hfinite, hrounds.ge_of_ge hlo hge, hrounds.le_of_le hhi hle⟩

variable {x y : Float} (hx : x.isFinite) (hy : y.isFinite)

include hx hy

theorem add_inRange (hge : lo ≤ exact x + exact y) (hle : exact x + exact y ≤ hi) :
    InRange lo hi (x + y) :=
  inRange_of_spec hlo hhi (add_spec hx hy) hge hle

theorem sub_inRange (hge : lo ≤ exact x - exact y) (hle : exact x - exact y ≤ hi) :
    InRange lo hi (x - y) :=
  inRange_of_spec hlo hhi (sub_spec hx hy) hge hle

theorem mul_inRange (hge : lo ≤ exact x * exact y) (hle : exact x * exact y ≤ hi) :
    InRange lo hi (x * y) :=
  inRange_of_spec hlo hhi (mul_spec hx hy) hge hle

theorem div_inRange (hne : exact y ≠ 0) (hge : lo ≤ exact x / exact y)
    (hle : exact x / exact y ≤ hi) : InRange lo hi (x / y) :=
  inRange_of_spec hlo hhi (div_spec hx hy hne) hge hle

end Operations

end Floating

end ViewMotion
