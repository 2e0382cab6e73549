import ViewMotion.Clock.Interval
import ViewMotion.Scene

/-!
This module contains the event loop of a scene. It hands events to their handlers, has the animator
make its frames, and tells of the motions that have come to their end.
-/

namespace ViewMotion

structure EventLoop (K T A X : Type) where
  scene : Scene K T A X
  hasQuit : Bool

namespace EventLoop

variable {K T A X : Type} [Scalar K]

def new (names : ViewNames) (clock : T) (defaults : MotionDefaults) (store : X) :
    EventLoop K T A X :=
  ⟨.new names clock defaults store, false⟩

def isBusy (loop : EventLoop K T A X) : Bool := loop.scene.animator.isBusy

section Handling

variable [Clock T] (interpreter : Interpreter A (Scene K T A X))

def dispatch (loop : EventLoop K T A X) (event : Event) : EventLoop K T A X :=
  { loop with scene := (interpreter.run (Scene.dispatch event) loop.scene).2 }

def frame (loop : EventLoop K T A X) (now : Instant) : FrameReport × EventLoop K T A X :=
  let (report, scene) := loop.scene.frame now
  let moved := { loop with scene }
  -- all views have moved before the first handler hears of an end
  let ends := report.ended.map fun (v, phase) => Event.motionEnded v phase
  (report, ends.foldl (dispatch interpreter) moved)

def handle (loop : EventLoop K T A X) : Message → EventLoop K T A X
  | .input event => loop.dispatch interpreter event
  | .frame now => (loop.frame interpreter now).2
  | .quit => { loop with hasQuit := true }

/--
Handles the messages of the queue, up to `limit` of them, until it is empty or the loop has quit.
Tells whether the loop goes on.
-/
def poll : (limit : Nat) → EventLoop K T A X → Bool × EventLoop K T A X
  | 0, loop => (!loop.hasQuit, loop)
  | limit + 1, loop =>
    if loop.hasQuit then (false, loop)
    else
      match loop.scene.queue with
      | [] => (true, loop)
      | message :: queue =>
        let taken := { loop with scene := { loop.scene with queue } }
        poll limit (taken.handle interpreter message)

end Handling

def frameIfDue? (interpreter : Interpreter A (Scene K IntervalClock A X)) (limit : Nat)
    (loop : EventLoop K IntervalClock A X) :
    Option (Option Instant × EventLoop K IntervalClock A X) :=
  (loop.scene.animator.clock.takeFrame? limit).map fun (frame, clock) =>
    let animator := { loop.scene.animator with clock }
    let loop := { loop with scene := { loop.scene with animator } }
    match frame with
    | none => (none, loop)
    | some now => (some now, (loop.frame interpreter now).2)

end EventLoop

end ViewMotion
