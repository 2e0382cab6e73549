import ViewMotion.Easing
import ViewMotion.Time
import ViewMotion.View

/-!
This module contains motions, each of which takes a single view from one place to another.
-/

namespace ViewMotion

inductive Phase where
  | pending
  | running
  | completed
  | cancelled
deriving DecidableEq, Repr

namespace Phase

def isOver : Phase → Bool
  | pending | running => false
  | completed | cancelled => true

end Phase

structure Motion (K : Type) where
  view : ViewId
  departure : Rect K
  destination : Rect K
  began : Instant
  duration : Duration
  easing : Easing
  phase : Phase
deriving DecidableEq, Repr

variable {K : Type} [Scalar K]

namespace Duration

def inSeconds (d : Duration) : K := (d.seconds : K) + (d.subsecond : K) / 1000000000

end Duration

namespace Motion

def progress (motion : Motion K) (now : Instant) : K :=
  -- a motion without duration is always at its end
  if motion.duration.isZero then 1
  else
    let elapsed : K := (now.since motion.began).inSeconds
    Scalar.min (Scalar.max 0 (elapsed / motion.duration.inSeconds)) 1

def isDone (motion : Motion K) (now : Instant) : Bool := 1 ≤ motion.progress now

/--
A motion that is done is at its destination itself, and not at some point that is computed.
-/
def rectAt (motion : Motion K) (now : Instant) : Rect K :=
  if motion.isDone now then motion.destination
  else motion.departure.lerp motion.destination (motion.easing.fraction (motion.progress now))

end Motion

end ViewMotion
