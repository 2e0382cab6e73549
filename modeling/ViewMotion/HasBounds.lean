import ViewMotion.ViewTree.Basic

/-!
This module contains what an animator asks of those who own the views: to tell the bounds of a
view, and to place it elsewhere. They may refuse to.
-/

namespace ViewMotion

class HasBounds (V : Type) (K : outParam Type) where
  bounds? : V → ViewId → Option (Rect K)
  place : V → ViewId → Rect K → Bool × V

instance {K : Type} [Scalar K] : HasBounds (ViewTree K) K where
  bounds? := ViewTree.bounds?
  place := ViewTree.place

end ViewMotion
