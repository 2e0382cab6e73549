import ViewMotion.Proofs.Motion.Outcome
import ViewMotion.Proofs.Motion.Subscription

/-!
This module contains the requests to an animator, in any order, and the events that they come to:
the beginnings of motions, their ends, and the frames in between.

The views are given anew with each request. Anybody may have changed them since the last one, and
they may even be other views altogether.
-/

namespace ViewMotion

inductive AnimatorRequest (K T : Type) : Type 1 where
  | start {V : Type} [HasBounds V K] (views : V) (v : ViewId) (destination : Rect K)
    (duration : Duration)
  | startDefault {V : Type} [HasBounds V K] (views : V) (v : ViewId) (destination : Rect K)
  | stop (v : ViewId)
  | stopAll
  | frame {V : Type} [HasBounds V K] (views : V) (now : Instant)
  | setDefaults (defaults : MotionDefaults)
  | changeClock (change : T → T)

inductive Fate where
  /-- Another motion of the same view has begun. -/
  | replaced
  | stopped
  /-- All motions were stopped. -/
  | dropped
  | reported (phase : Phase)
deriving DecidableEq, Repr

inductive MotionEvent (K : Type) where
  | begun (v : ViewId) (destination : Rect K) (duration : Duration)
  | ended (v : ViewId) (fate : Fate)
  | frame
deriving DecidableEq, Repr

namespace Animator

variable {K T : Type} [Scalar K] [Clock T]

def begun (animator : Animator K T) (v : ViewId) (destination : Rect K) (duration : Duration) :
    Except (MotionError K) (Animator K T) → List (MotionEvent K) × Animator K T
  | .error _ => ([], animator)
  | .ok started =>
    let beginning := .begun v destination duration
    (if animator.isMoving v then [.ended v .replaced, beginning] else [beginning], started)

def respond (animator : Animator K T) :
    AnimatorRequest K T → List (MotionEvent K) × Animator K T
  | @AnimatorRequest.start _ _ _ _ views v destination duration =>
    animator.begun v destination duration (animator.start views v destination duration)
  | @AnimatorRequest.startDefault _ _ _ _ views v destination =>
    animator.begun v destination animator.defaults.duration
      (animator.startDefault views v destination)
  | .stop v =>
    let (stopped, animator) := animator.stop v
    (if stopped then [.ended v .stopped] else [], animator)
  | .stopAll => (animator.motions.keys.map (.ended · .dropped), animator.stopAll)
  | @AnimatorRequest.frame _ _ _ _ views now =>
    let (report, animator, _) := animator.frame now views
    (.frame :: report.ended.map fun (v, phase) => .ended v (.reported phase), animator)
  | .setDefaults defaults => ([], { animator with defaults })
  | .changeClock change => ([], { animator with clock := change animator.clock })

def run (animator : Animator K T) (requests : List (AnimatorRequest K T)) : Animator K T :=
  requests.foldl (fun animator request => (animator.respond request).2) animator

def events (animator : Animator K T) : List (AnimatorRequest K T) → List (MotionEvent K)
  | [] => []
  | request :: requests =>
    let (events, animator) := animator.respond request
    events ++ animator.events requests

def report? (animator : Animator K T) : AnimatorRequest K T → Option FrameReport
  | @AnimatorRequest.frame _ _ _ _ views now => some (animator.frame now views).1
  | _ => none

def reports (animator : Animator K T) : List (AnimatorRequest K T) → List FrameReport
  | [] => []
  | request :: requests =>
    (animator.report? request).toList ++ (animator.respond request).2.reports requests

theorem respond_stop (animator : Animator K T) (v : ViewId) :
    animator.respond (.stop v) =
      (if animator.isMoving v then [.ended v .stopped] else [], (animator.stop v).2) := by
  rw [← stop_fst]
  rfl

theorem respond_frame {V : Type} [HasBounds V K] (animator : Animator K T) (views : V)
    (now : Instant) :
    animator.respond (.frame views now) =
      (.frame :: (animator.frame now views).1.ended.map fun entry =>
        .ended entry.1 (.reported entry.2), (animator.frame now views).2.1) := rfl

theorem run_cons (animator : Animator K T) (request : AnimatorRequest K T)
    (requests : List (AnimatorRequest K T)) :
    animator.run (request :: requests) = (animator.respond request).2.run requests := rfl

end Animator

end ViewMotion
