import Mathlib.Algebra.Order.Field.Rat
import Mathlib.Order.CompletePartialOrder
import ViewMotion.Geometry
import ViewMotion.Proofs.ExactScalar

/-!
This module contains where rectangles with exact coordinates lie: inside of each other, or beside
and above each other.
-/

namespace ViewMotion

namespace Rect

variable {a b : Rect Rat}

def right (r : Rect Rat) : Rat := r.origin.x + r.size.width

def bottom (r : Rect Rat) : Rat := r.origin.y + r.size.height

/--
The edges belong to the region.
-/
def region (r : Rect Rat) : Set (Point Rat) :=
  {p | r.origin.x ≤ p.x ∧ p.x ≤ r.right ∧ r.origin.y ≤ p.y ∧ p.y ≤ r.bottom}

def interior (r : Rect Rat) : Set (Point Rat) :=
  {p | r.origin.x < p.x ∧ p.x < r.right ∧ r.origin.y < p.y ∧ p.y < r.bottom}

/--
The rectangle lies inside one of the given size whose corner is the origin.
-/
structure Within (r : Rect Rat) (size : Size Rat) : Prop where
  left : 0 ≤ r.origin.x
  top : 0 ≤ r.origin.y
  width : 0 ≤ r.size.width
  height : 0 ≤ r.size.height
  right : r.right ≤ size.width
  bottom : r.bottom ≤ size.height

theorem region_disjoint_beside (h : a.right < b.origin.x) : Disjoint a.region b.region := by
  rw [Set.disjoint_left]
  intro p ha hb
  exact absurd (le_trans hb.1 ha.2.1) (not_le.mpr h)

theorem region_disjoint_above (h : a.bottom < b.origin.y) : Disjoint a.region b.region := by
  rw [Set.disjoint_left]
  intro p ha hb
  exact absurd (le_trans hb.2.2.1 ha.2.2.2) (not_le.mpr h)

theorem interior_disjoint_beside (h : a.right ≤ b.origin.x) : Disjoint a.interior b.interior := by
  rw [Set.disjoint_left]
  intro p ha hb
  exact absurd (lt_trans hb.1 ha.2.1) (not_lt.mpr h)

theorem interior_disjoint_above (h : a.bottom ≤ b.origin.y) : Disjoint a.interior b.interior := by
  rw [Set.disjoint_left]
  intro p ha hb
  exact absurd (lt_trans hb.2.2.1 ha.2.2.2) (not_lt.mpr h)

end Rect

end ViewMotion
