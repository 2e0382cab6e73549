/-!
This module contains the arithmetic that coordinates, colors and progress values are made of.
Binary floating point is the instance that runs, and everything that is built on `Scalar` can be
read over exact numbers as well.
-/

namespace ViewMotion

class Scalar (K : Type)
    extends Add K, Sub K, Mul K, Div K, Neg K, NatCast K, BEq K, LT K, LE K where
  decLt (a b : K) : Decidable (a < b)
  decLe (a b : K) : Decidable (a ≤ b)
  isFinite : K → Bool

namespace Scalar

variable {K : Type} [Scalar K]

instance : DecidableLT K := decLt

instance : DecidableLE K := decLe

instance (priority := low) (n : Nat) : OfNat K n := ⟨(n : K)⟩

/--
Only a value that is not a number differs from itself.
-/
def isNaN (x : K) : Bool := !(x == x)

/--
A value that is not a number loses to any other. Of two values that compare equal the first is
taken.
-/
def max (x y : K) : K :=
  if isNaN x then y
  else if isNaN y then x
  else if x < y then y
  else x

def min (x y : K) : K :=
  if isNaN x then y
  else if isNaN y then x
  else if y < x then y
  else x

def lerp (a b t : K) : K := a + (b - a) * t

end Scalar

instance : Scalar Float where
  natCast := Float.ofNat
  decLt a b := inferInstanceAs (Decidable (a < b))
  decLe a b := inferInstanceAs (Decidable (a ≤ b))
  isFinite := Float.isFinite

end ViewMotion
