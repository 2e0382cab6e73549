import Std.Data.ExtTreeMap
import ViewMotion.Clock.Basic
import ViewMotion.HasBounds
import ViewMotion.Motion.Basic

/-!
This module contains the animator and the requests to it. An animator holds at most one motion for
a view, and it is subscribed to its clock as long as it holds any.
-/

namespace ViewMotion

structure MotionDefaults where
  duration : Duration := .ofMilliseconds 200
  easing : Easing := .easeOut
deriving DecidableEq, Repr, Inhabited

inductive MotionError (K : Type) where
  | missing (view : ViewId)
  | invalid (destination : Rect K)
deriving DecidableEq, Repr

structure Animator (K T : Type) where
  clock : T
  defaults : MotionDefaults
  motions : Std.ExtTreeMap ViewId (Motion K)

namespace Animator

variable {K T V : Type}

def idle (clock : T) (defaults : MotionDefaults) : Animator K T := ⟨clock, defaults, ∅⟩

def isBusy (animator : Animator K T) : Bool := !animator.motions.isEmpty

def motion? (animator : Animator K T) (v : ViewId) : Option (Motion K) := animator.motions[v]?

def isMoving (animator : Animator K T) (v : ViewId) : Bool := animator.motions.contains v

def destination? (animator : Animator K T) (v : ViewId) : Option (Rect K) :=
  (animator.motion? v).map Motion.destination

variable [Clock T]

def wake (animator : Animator K T) : Animator K T :=
  if Clock.isSubscribed animator.clock then animator
  else { animator with clock := Clock.subscribe animator.clock }

def rest (animator : Animator K T) : Animator K T :=
  if animator.motions.isEmpty && Clock.isSubscribed animator.clock then
    { animator with clock := Clock.unsubscribe animator.clock }
  else animator

theorem wake_motions (animator : Animator K T) : animator.wake.motions = animator.motions := by
  unfold wake
  split <;> rfl

theorem rest_motions (animator : Animator K T) : animator.rest.motions = animator.motions := by
  unfold rest
  split <;> rfl

def start [Scalar K] [HasBounds V K] (animator : Animator K T) (views : V) (v : ViewId)
    (destination : Rect K) (duration : Duration) : Except (MotionError K) (Animator K T) :=
  if destination.isValid then
    match HasBounds.bounds? views v with
    | none => .error (.missing v)
    | some departure =>
      let motion := {
        view := v
        departure
        destination
        began := Clock.now animator.clock
        duration
        easing := animator.defaults.easing
        phase := .pending
      }
      .ok { animator with motions := animator.motions.insert v motion }.wake
  else
    .error (.invalid destination)

def startDefault [Scalar K] [HasBounds V K] (animator : Animator K T) (views : V) (v : ViewId)
    (destination : Rect K) : Except (MotionError K) (Animator K T) :=
  animator.start views v destination animator.defaults.duration

/--
Tells whether there was a motion. The view stays where the last frame has put it.
-/
def stop (animator : Animator K T) (v : ViewId) : Bool × Animator K T :=
  if animator.isMoving v then
    (true, { animator with motions := animator.motions.erase v }.rest)
  else
    (false, animator)

def stopAll (animator : Animator K T) : Animator K T := { animator with motions := ∅ }.rest

end Animator

end ViewMotion
