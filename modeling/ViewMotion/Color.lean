import ViewMotion.Scalar

/-!
This module contains colors, with channels and opacity between 0 and 1.
-/

namespace ViewMotion

structure Color (K : Type) where
  red : K
  green : K
  blue : K
  alpha : K
deriving DecidableEq, BEq, Repr

namespace Color

variable {K : Type} [Scalar K]

def rgb (red green blue : K) : Color K := ⟨red, green, blue, 1⟩

/--
The word holds eight bits each for opacity, red, green and blue, from its high end to its low one.
-/
def ofARGB (word : UInt32) : Color K :=
  ⟨channel 16, channel 8, channel 0, channel 24⟩
where
  channel (shift : Nat) : K := ((word.toNat / Nat.pow 2 shift % 256 : Nat) : K) / 255

def transparent : Color K := ⟨0, 0, 0, 0⟩

def white : Color K := rgb 1 1 1

def gray : Color K := rgb (533 / 1000) (533 / 1000) (533 / 1000)

def yellow : Color K := rgb 1 1 0

end Color

end ViewMotion
