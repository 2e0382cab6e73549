import ViewMotion.Geometry.Text
import ViewMotion.Motion.Animator

/-!
This module contains the messages for motions that cannot be started.
-/

namespace ViewMotion

def MotionError.message : MotionError Float → String
  | .missing view => s!"cannot animate {view.describe}: no such view"
  | .invalid destination => s!"invalid destination bounds {destination.describe}"

end ViewMotion
