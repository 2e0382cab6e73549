import ViewMotion.Scalar

/-!
This module contains the curves that turn the progress of an animation into the fraction of the way
that is covered.
-/

namespace ViewMotion

inductive Easing where
  | linear
  | easeIn
  | easeOut
  | easeInOut
  | fastInOut
  /-- Rests until the end and then jumps. -/
  | zero
deriving DecidableEq, Repr

namespace Easing

variable {K : Type} [Scalar K]

instance : Inhabited Easing := ⟨easeOut⟩

def clamp (t : K) : K :=
  if Scalar.isNaN t then 0 else Scalar.min (Scalar.max 0 t) 1

def curve (easing : Easing) (t : K) : K :=
  match easing with
  | linear => t
  | easeIn => t * t
  | easeOut => 1 - (1 - t) * (1 - t)
  | easeInOut => if t < 1 / 2 then 2 * t * t else 1 - 2 * (1 - t) * (1 - t)
  | fastInOut => (cube (t - 1 / 2) + 1 / 8) / (1 / 4)
  | zero => if t < 1 then 0 else 1
where
  cube (x : K) : K := x * (x * x)

def fraction (easing : Easing) (t : K) : K := easing.curve (clamp t)

end Easing

end ViewMotion
