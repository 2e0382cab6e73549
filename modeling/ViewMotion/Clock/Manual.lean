import ViewMotion.Clock.Basic

/-!
This module contains a clock that is moved by hand, and which counts how often somebody has begun
to wait for it.
-/

namespace ViewMotion

structure ManualClock where
  now : Instant
  subscribed : Bool
  subscriptions : Nat
deriving DecidableEq, Repr

inductive ClockError where
  | overflow
deriving DecidableEq, Repr

namespace ClockError

def message : ClockError → String
  | overflow => "overflow when adding duration to instant"

end ClockError

namespace ManualClock

def atEpoch : ManualClock := ⟨.epoch, false, 0⟩

def forward (clock : ManualClock) (step : Duration) : Except ClockError ManualClock :=
  let now := clock.now.after step
  if now.isRepresentable then .ok { clock with now } else .error .overflow

def set (clock : ManualClock) (now : Instant) : ManualClock := { clock with now }

def subscribe (clock : ManualClock) : ManualClock :=
  if clock.subscribed then clock
  else { clock with subscribed := true, subscriptions := clock.subscriptions + 1 }

def unsubscribe (clock : ManualClock) : ManualClock := { clock with subscribed := false }

instance : Clock ManualClock where
  now := now
  subscribe := subscribe
  unsubscribe := unsubscribe
  isSubscribed := subscribed

end ManualClock

end ViewMotion
