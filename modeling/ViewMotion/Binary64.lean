/-!
This module contains the exact value of a binary floating point number of 64 bits, and the range of
the real numbers that round to it.
-/

namespace ViewMotion

inductive Binary64 where
  | nan
  | infinity (negative : Bool)
  /-- Stands for `mantissa * 2 ^ exponent`. -/
  | finite (negative : Bool) (mantissa : Nat) (exponent : Int)
deriving DecidableEq, Repr

namespace Binary64

def ofBits (bits : UInt64) : Binary64 :=
  let word := bits.toNat
  let negative := word.testBit 63
  let fraction := word % Nat.pow 2 52
  match word / Nat.pow 2 52 % Nat.pow 2 11 with
  | 0 => .finite negative fraction (-1074)
  | 2047 => if fraction = 0 then .infinity negative else .nan
  | biased => .finite negative (Nat.pow 2 52 + fraction) ((biased : Int) - 1075)

def ofFloat (x : Float) : Binary64 := ofBits x.toBits

end Binary64

/--
The real numbers that round to a positive `value` lie between `lower` and `upper`, which are among
them if the range is `closed`. The unit of all three is `2 ^ exponent`.
-/
structure RoundingRange where
  lower : Nat
  value : Nat
  upper : Nat
  exponent : Int
  closed : Bool

namespace RoundingRange

/--
The unit is a quarter of the last place. Numbers lie twice as dense below a power of two, and a tie
rounds to the even mantissa.
-/
def ofFinite (mantissa : Nat) (exponent : Int) : RoundingRange where
  lower := if mantissa = Nat.pow 2 52 ∧ -1074 < exponent then 4 * mantissa - 1 else 4 * mantissa - 2
  value := 4 * mantissa
  upper := 4 * mantissa + 2
  exponent := exponent - 2
  closed := mantissa % 2 = 0

end RoundingRange

end ViewMotion
