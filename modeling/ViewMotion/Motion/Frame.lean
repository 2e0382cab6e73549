import ViewMotion.Motion.Animator

/-!
This module contains the frames of an animator. A frame brings all motions to the given time and
marks what has become of them, and then drops those that are over.
-/

namespace ViewMotion

structure FrameReport where
  placed : Nat
  ended : List (ViewId × Phase)
deriving DecidableEq, Repr

variable {K T V : Type} [Scalar K] [HasBounds V K]

namespace Motion

def bring (motion : Motion K) (v : ViewId) (now : Instant) (views : V) : Motion K × V :=
  match HasBounds.place views v (motion.rectAt now) with
  -- a view that cannot be placed cancels its motion, even if the motion is done
  | (false, views) => ({ motion with phase := .cancelled }, views)
  | (true, views) =>
    let phase := if motion.isDone now then .completed else .running
    ({ motion with phase }, views)

def bringAll (now : Instant) : List (ViewId × Motion K) → V → List (ViewId × Motion K) × V
  | [], views => ([], views)
  | (v, motion) :: rest, views =>
    let (motion, views) := motion.bring v now views
    let (rest, views) := bringAll now rest views
    ((v, motion) :: rest, views)

theorem bringAll_map_fst (now : Instant) (motions : List (ViewId × Motion K)) (views : V) :
    (bringAll now motions views).1.map Prod.fst = motions.map Prod.fst := by
  induction motions generalizing views with
  | nil => rfl
  | cons head rest ih =>
    simp only [bringAll, List.map_cons]
    rw [ih]

end Motion

namespace FrameReport

def ofMotions (motions : List (ViewId × Motion K)) : FrameReport where
  placed := motions.countP fun (_, motion) => motion.phase != .cancelled
  ended := motions.filterMap fun (v, motion) =>
    if motion.phase.isOver then some (v, motion.phase) else none

end FrameReport

namespace Animator

variable [Clock T]

def frameInOrder (animator : Animator K T) (order : List (ViewId × Motion K)) (now : Instant)
    (views : V) : FrameReport × Animator K T × V :=
  let (motions, views) := Motion.bringAll now order views
  let left := motions.filter fun (_, motion) => !motion.phase.isOver
  (.ofMotions motions, { animator with motions := .ofList left }.rest, views)

def frame (animator : Animator K T) (now : Instant) (views : V) :
    FrameReport × Animator K T × V :=
  animator.frameInOrder animator.motions.toList now views

end Animator

end ViewMotion
