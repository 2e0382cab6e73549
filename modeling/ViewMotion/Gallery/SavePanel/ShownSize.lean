import ViewMotion.Decimal.Rounding

/-!
This module contains the sizes of files as a save panel shows them. Sizes are rounded down to whole
kilobytes, and then to hundredths of the larger units.
-/

namespace ViewMotion

inductive ShownSize where
  | bytes (count : Nat)
  | kilobytes (count : Nat)
  | megabytes (hundredths : Nat)
  | gigabytes (hundredths : Nat)
deriving DecidableEq, Repr

namespace ShownSize

def ofBytes? (bytes : UInt32) : Option ShownSize :=
  let bytes := bytes.toNat
  let kb := bytes / 1024
  -- the least and the greatest number stand for a size that nobody knows
  if bytes = 0 ∨ bytes = Nat.pow 2 32 - 1 then none
  else if bytes < 1024 then some (.bytes bytes)
  else if kb < 1024 then some (.kilobytes kb)
  else if kb < 1024 * 1024 then some (.megabytes (Decimal.roundDiv (100 * kb) 1024))
  else some (.gigabytes (Decimal.roundDiv (100 * kb) (1024 * 1024)))

def text : ShownSize → String
  | bytes count => s!"{count} B"
  | kilobytes count => s!"{count} KB"
  | megabytes hundredths => s!"{Decimal.hundredths hundredths} MB"
  | gigabytes hundredths => s!"{Decimal.hundredths hundredths} GB"

end ShownSize

def describeSize (bytes : UInt32) : String :=
  (ShownSize.ofBytes? bytes).elim "unknown size" ShownSize.text

end ViewMotion
