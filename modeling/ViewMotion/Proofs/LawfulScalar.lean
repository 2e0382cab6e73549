import ViewMotion.Geometry
import ViewMotion.Proofs.ExactScalar
import ViewMotion.Proofs.ExtendedScalar

/-!
This module contains what all kinds of scalars have in common, whether they are rounded or not: a
value that is not a number has no sign and differs from everything.
-/

namespace ViewMotion

class LawfulScalar (K : Type) [Scalar K] : Prop where
  isNaN_zero : Scalar.isNaN (0 : K) = false
  isNaN_of_pos {x : K} (h : 0 < x) : Scalar.isNaN x = false
  beq_of_isNaN {x : K} (h : Scalar.isNaN x) (y : K) : (y == x) = false

instance : LawfulScalar Rat where
  isNaN_zero := Scalar.isNaN_rat 0
  isNaN_of_pos _ := Scalar.isNaN_rat _
  beq_of_isNaN h _ := by
    rw [Scalar.isNaN_rat] at h
    contradiction

instance : LawfulScalar Extended where
  isNaN_zero := Extended.isNaN_finite 0
  isNaN_of_pos {x} h := by
    cases x with
    | finite x => exact Extended.isNaN_finite x
    | infinity negative => cases negative <;> rfl
    | nan => contradiction
  beq_of_isNaN {x} h y := by
    cases x with
    | finite x =>
      rw [Extended.isNaN_finite] at h
      contradiction
    | infinity negative => cases negative <;> contradiction
    | nan => cases y <;> rfl

namespace Scalar

variable {K : Type} [Scalar K] [LawfulScalar K]

theorem max_zero_cases (x : K) : Scalar.max 0 x = 0 ∨ 0 < x ∧ Scalar.max 0 x = x := by
  unfold Scalar.max
  rw [LawfulScalar.isNaN_zero, if_neg Bool.false_ne_true]
  split
  · exact Or.inl rfl
  · split
    · next h => exact Or.inr ⟨h, rfl⟩
    · exact Or.inl rfl

theorem isNaN_max_zero (x : K) : isNaN (Scalar.max 0 x) = false := by
  rcases max_zero_cases x with heq | ⟨hpos, heq⟩
  · rw [heq]
    exact LawfulScalar.isNaN_zero
  · rw [heq]
    exact LawfulScalar.isNaN_of_pos hpos

theorem max_zero_max_zero (x : K) : Scalar.max 0 (Scalar.max 0 x) = Scalar.max 0 x := by
  rcases max_zero_cases (Scalar.max 0 x) with heq | ⟨-, heq⟩
  · rcases max_zero_cases x with heq' | ⟨-, heq'⟩
    · rw [heq, heq']
    · rw [heq', heq']
  · exact heq

variable {x y : K} (hx : isNaN x = false) (hy : isNaN y = false)

include hx hy

omit [LawfulScalar K] in
theorem min_cases : Scalar.min x y = y ∨ Scalar.min x y = x := by
  unfold Scalar.min
  rw [hx, hy, if_neg Bool.false_ne_true, if_neg Bool.false_ne_true]
  split
  · exact Or.inl rfl
  · exact Or.inr rfl

omit [LawfulScalar K] in
theorem min_min_self : Scalar.min (Scalar.min x y) y = Scalar.min x y := by
  rcases min_cases hx hy with heq | heq
  · rw [heq]
    rcases min_cases hy hy with heq' | heq' <;> exact heq'
  · rw [heq, heq]

omit hx hy in
/--
What has been brought between zero and a limit that is not below zero stays where it is.
-/
theorem clamp_clamp (x y : K) :
    Scalar.min (Scalar.max 0 (Scalar.min (Scalar.max 0 x) (Scalar.max 0 y))) (Scalar.max 0 y) =
      Scalar.min (Scalar.max 0 x) (Scalar.max 0 y) := by
  have hinner : Scalar.max 0 (Scalar.min (Scalar.max 0 x) (Scalar.max 0 y)) =
      Scalar.min (Scalar.max 0 x) (Scalar.max 0 y) := by
    rcases min_cases (isNaN_max_zero x) (isNaN_max_zero y) with heq | heq
    · rw [heq, max_zero_max_zero]
    · rw [heq, max_zero_max_zero]
  rw [hinner, min_min_self (isNaN_max_zero x) (isNaN_max_zero y)]

end Scalar

theorem Size.bne_of_bne_self {K : Type} [Scalar K] [LawfulScalar K] {size : Size K}
    (h : size != size) (other : Size K) : other != size := by
  change (!(size.width == size.width && size.height == size.height)) = true at h
  change (!(other.width == size.width && other.height == size.height)) = true
  rw [Bool.not_and, Bool.or_eq_true] at h ⊢
  cases h with
  | inl hwidth => exact Or.inl (congrArg not (LawfulScalar.beq_of_isNaN hwidth other.width))
  | inr hheight => exact Or.inr (congrArg not (LawfulScalar.beq_of_isNaN hheight other.height))

end ViewMotion
