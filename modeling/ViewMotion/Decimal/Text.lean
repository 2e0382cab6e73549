import ViewMotion.Decimal.Shortest

/-!
This module contains the texts of floating point numbers, which are the digits of
`Decimal.shortest` in one of two layouts.
-/

namespace ViewMotion.Decimal

/--
A number is written positionally if the power of ten of its first digit is neither below `least`
nor above `greatest`. There are at least `places` digits after the point then.
-/
structure Layout where
  least : Int
  greatest : Int
  places : Nat

namespace Layout

def padRight (length : Nat) (digits : List Char) : List Char :=
  digits ++ List.replicate (length - digits.length) '0'

def withFraction (whole fraction : List Char) : List Char :=
  if fraction.isEmpty then whole else whole ++ '.' :: fraction

def positional (layout : Layout) (digits : List Char) (power : Int) : List Char :=
  let digits := List.replicate (-power).toNat '0' ++ digits
  let whole := power.toNat + 1
  withFraction (padRight whole (digits.take whole)) (padRight layout.places (digits.drop whole))

def scientific (digits : List Char) (power : Int) : List Char :=
  withFraction (digits.take 1) (digits.drop 1) ++ 'e' :: (toString power).toList

def magnitude (layout : Layout) (decimal : Decimal) : List Char :=
  let all := Nat.toDigits 10 decimal.digits
  let digits := (all.reverse.dropWhile (· == '0')).reverse
  let power := decimal.exponent + all.length - 1
  if layout.least ≤ power ∧ power ≤ layout.greatest then layout.positional digits power
  else scientific digits power

def text (layout : Layout) : Binary64 → String
  | .nan => "NaN"
  | .infinity negative => if negative then "-inf" else "inf"
  | .finite negative mantissa exponent =>
    let magnitude :=
      if mantissa = 0 then layout.positional ['0'] 0
      else layout.magnitude (shortest mantissa exponent)
    String.ofList (if negative then '-' :: magnitude else magnitude)

end Layout

end ViewMotion.Decimal
