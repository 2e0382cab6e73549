import ViewMotion.Decimal.Text
import ViewMotion.Geometry

/-!
This module contains the texts of rectangles.
-/

namespace ViewMotion

def Decimal.Layout.coordinate : Decimal.Layout where
  least := -4
  greatest := 15
  places := 1

def Rect.describe (r : Rect Float) : String :=
  s!"Rect \x7b origin: Point2 [{text r.origin.x}, {text r.origin.y}], " ++
    s!"size: Vector2 [{text r.size.width}, {text r.size.height}] \x7d"
where
  text (x : Float) : String := Decimal.Layout.coordinate.text (.ofFloat x)

end ViewMotion
