import ViewMotion.Binary64

/-!
This module contains the decimal with the fewest digits that reads back as a given binary floating
point number.

A decimal lies on the grid of the multiples of a power of ten. `Decimal.shortest` goes from coarse
grids to fine ones and stops at the first that has a point among the real numbers that round to the
given one. If any point of a grid does, then one of the two next to the given number does.
-/

namespace ViewMotion

/--
Stands for `digits * 10 ^ exponent`.
-/
structure Decimal where
  digits : Nat
  exponent : Int
deriving DecidableEq, Repr

namespace RoundingRange

variable (range : RoundingRange)

/--
A unit of the range is `a / b` steps of the grid of `10 ^ exponent`.
-/
def scale (exponent : Int) : Nat × Nat :=
  let a := Nat.pow 2 range.exponent.toNat * Nat.pow 10 (-exponent).toNat
  let b := Nat.pow 2 (-range.exponent).toNat * Nat.pow 10 exponent.toNat
  (a, b)

def containsStep (exponent : Int) (step : Nat) : Bool :=
  let (a, b) := range.scale exponent
  if range.closed then range.lower * a ≤ step * b && step * b ≤ range.upper * a
  else range.lower * a < step * b && step * b < range.upper * a

def onGrid? (exponent : Int) : Option Decimal :=
  let (a, b) := range.scale exponent
  let below := range.value * a / b
  let rest := range.value * a % b
  match range.containsStep exponent below, range.containsStep exponent (below + 1) with
  | true, true => some ⟨if 2 * rest < b then below else below + 1, exponent⟩
  | true, false => some ⟨below, exponent⟩
  | false, true => some ⟨below + 1, exponent⟩
  | false, false => none

def firstOnGrid? (coarsest : Int) : (grids : Nat) → Option Decimal
  | 0 => none
  | grids + 1 =>
    match range.onGrid? coarsest with
    | some decimal => some decimal
    | none => firstOnGrid? (coarsest - 1) grids

end RoundingRange

/--
No finite number reaches `10 ^ 309`, and the gaps between numbers are wider than the steps of the
grid of `10 ^ (-324)`.
-/
def Decimal.shortest (mantissa : Nat) (exponent : Int) : Decimal :=
  ((RoundingRange.ofFinite mantissa exponent).firstOnGrid? 309 634).getD ⟨0, 0⟩

end ViewMotion
