import ViewMotion.Scalar

/-!
This module contains points, sizes and rectangles. The y axis points downwards.
-/

namespace ViewMotion

structure Point (K : Type) where
  x : K
  y : K
deriving DecidableEq, BEq, Repr

structure Size (K : Type) where
  width : K
  height : K
deriving DecidableEq, BEq, Repr

structure Rect (K : Type) where
  origin : Point K
  size : Size K
deriving DecidableEq, BEq, Repr

variable {K : Type}

namespace Point

def lerp [Scalar K] (a b : Point K) (t : K) : Point K where
  x := Scalar.lerp a.x b.x t
  y := Scalar.lerp a.y b.y t

end Point

namespace Size

def zero [Scalar K] : Size K := ⟨0, 0⟩

def lerp [Scalar K] (a b : Size K) (t : K) : Size K where
  width := Scalar.lerp a.width b.width t
  height := Scalar.lerp a.height b.height t

end Size

namespace Rect

def zero [Scalar K] : Rect K := ⟨⟨0, 0⟩, .zero⟩

instance [Scalar K] : Inhabited (Rect K) := ⟨zero⟩

def ofXYWH (x y width height : K) : Rect K := ⟨⟨x, y⟩, ⟨width, height⟩⟩

def isEmpty [Scalar K] (r : Rect K) : Bool :=
  r.size.width ≤ 0 || r.size.height ≤ 0

def isValid [Scalar K] (r : Rect K) : Bool :=
  Scalar.isFinite r.origin.x && Scalar.isFinite r.origin.y &&
    Scalar.isFinite r.size.width && Scalar.isFinite r.size.height &&
    0 ≤ r.size.width && 0 ≤ r.size.height

def movedTo (r : Rect K) (origin : Point K) : Rect K := { r with origin }

def bottomLeft [Scalar K] (r : Rect K) : Point K := ⟨r.origin.x, r.origin.y + r.size.height⟩

def lerp [Scalar K] (a b : Rect K) (t : K) : Rect K where
  origin := a.origin.lerp b.origin t
  size := a.size.lerp b.size t

end Rect

end ViewMotion
