import Mathlib.Algebra.Order.Field.Basic
import Mathlib.Algebra.Order.Field.Rat
import ViewMotion.Scalar

/-!
This module contains the exact numbers together with the two infinities and a value that is not a
number, as scalars. Arithmetic on them is that of floating point without any rounding.
-/

namespace ViewMotion

inductive Extended where
  | finite (x : Rat)
  | infinity (negative : Bool)
  | nan
deriving DecidableEq, Repr

namespace Extended

def add : Extended → Extended → Extended
  | .finite x, .finite y => .finite (x + y)
  | .infinity a, .infinity b => if a = b then .infinity a else .nan
  | .infinity a, .finite _ | .finite _, .infinity a => .infinity a
  | .nan, _ | _, .nan => .nan

def neg : Extended → Extended
  | .finite x => .finite (-x)
  | .infinity a => .infinity !a
  | .nan => .nan

def mul : Extended → Extended → Extended
  | .finite x, .finite y => .finite (x * y)
  | .infinity a, .infinity b => .infinity (a != b)
  | .infinity a, .finite x | .finite x, .infinity a =>
    if x = 0 then .nan else .infinity (a != decide (x < 0))
  | .nan, _ | _, .nan => .nan

def div : Extended → Extended → Extended
  | .finite x, .finite y =>
    if y ≠ 0 then .finite (x / y) else if x = 0 then .nan else .infinity (x < 0)
  | .infinity a, .finite x => .infinity (a != decide (x < 0))
  | .finite _, .infinity _ => .finite 0
  | .infinity _, .infinity _ => .nan
  | .nan, _ | _, .nan => .nan

def lt : Extended → Extended → Bool
  | .finite x, .finite y => x < y
  | .infinity a, .infinity b => a && !b
  | .infinity a, .finite _ => a
  | .finite _, .infinity a => !a
  | .nan, _ | _, .nan => false

def beq : Extended → Extended → Bool
  | .nan, _ | _, .nan => false
  | x, y => x = y

instance : Scalar Extended where
  add := add
  sub x y := x.add y.neg
  mul := mul
  div := div
  neg := neg
  natCast n := .finite n
  beq := beq
  lt x y := x.lt y
  le x y := x.lt y || x.beq y
  decLt x y := inferInstanceAs (Decidable (x.lt y))
  decLe x y := inferInstanceAs (Decidable (x.lt y || x.beq y))
  isFinite
    | .finite _ => true
    | _ => false

variable {x y : Rat}

theorem ofNat_eq (n : Nat) : (OfNat.ofNat n : Extended) = .finite n := rfl

theorem natCast_eq (n : Nat) : (n : Extended) = .finite n := rfl

theorem finite_add (x y : Rat) : finite x + finite y = finite (x + y) := rfl

theorem finite_sub (x y : Rat) : finite x - finite y = finite (x - y) :=
  congrArg finite (sub_eq_add_neg x y).symm

theorem finite_mul (x y : Rat) : finite x * finite y = finite (x * y) := rfl

theorem finite_lt_iff : finite x < finite y ↔ x < y := decide_eq_true_iff

theorem finite_le_iff : finite x ≤ finite y ↔ x ≤ y := by
  change (finite x).lt (finite y) || (finite x).beq (finite y) ↔ _
  simp [lt, beq, le_iff_lt_or_eq]

theorem isNaN_finite (x : Rat) : Scalar.isNaN (finite x) = false := by
  change (!decide (finite x = finite x)) = false
  simp

theorem max_finite (x y : Rat) : Scalar.max (finite x) (finite y) = finite (max x y) := by
  unfold Scalar.max
  rw [isNaN_finite, isNaN_finite, if_neg Bool.false_ne_true,
    if_neg Bool.false_ne_true]
  split
  · next h => rw [max_eq_right (le_of_lt (finite_lt_iff.mp h))]
  · next h => rw [max_eq_left (not_lt.mp (mt finite_lt_iff.mpr h))]

theorem min_finite (x y : Rat) : Scalar.min (finite x) (finite y) = finite (min x y) := by
  unfold Scalar.min
  rw [isNaN_finite, isNaN_finite, if_neg Bool.false_ne_true,
    if_neg Bool.false_ne_true]
  split
  · next h => rw [min_eq_right (le_of_lt (finite_lt_iff.mp h))]
  · next h => rw [min_eq_left (not_lt.mp (mt finite_lt_iff.mpr h))]

theorem min_infinity (y : Rat) : Scalar.min (infinity false) (finite y) = finite y := by
  have hlt : finite y < infinity false := rfl
  unfold Scalar.min
  rw [isNaN_finite, if_neg Bool.false_ne_true, if_pos hlt]
  rfl

/--
Whatever `x` is, nothing below zero is left of it.
-/
theorem max_zero_cases (x : Extended) :
    (∃ y, Scalar.max 0 x = finite y ∧ 0 ≤ y) ∨ Scalar.max 0 x = infinity false := by
  cases x with
  | finite x =>
    left
    refine ⟨max 0 x, max_finite 0 x, le_max_left 0 x⟩
  | infinity a =>
    cases a with
    | false => exact Or.inr rfl
    | true => exact Or.inl ⟨0, rfl, le_refl 0⟩
  | nan => exact Or.inl ⟨0, rfl, le_refl 0⟩

end Extended

end ViewMotion
