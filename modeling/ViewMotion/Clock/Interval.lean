import ViewMotion.Clock.Basic

/-!
This module contains a clock that has a frame whenever an interval has passed.

Somebody who waits for the clock gets a ticker, which delivers a message once its due time has come
and is due again one interval after that delivery. The clock takes all messages at once, so that a
backlog is a single frame.
-/

namespace ViewMotion

structure Ticker where
  interval : Duration
  due : Instant
deriving DecidableEq, Repr

namespace Ticker

def start (interval : Duration) (now : Instant) : Ticker := ⟨interval, now.after interval⟩

def receive? (ticker : Ticker) (now : Instant) : Option Ticker :=
  if now < ticker.due then none else some (start ticker.interval now)

def drain? (ticker : Ticker) (now : Instant) : (limit : Nat) → Option (Nat × Ticker)
  | 0 => none
  | limit + 1 =>
    match ticker.receive? now with
    | none => some (0, ticker)
    | some next => (next.drain? now limit).map fun (count, last) => (count + 1, last)

end Ticker

structure IntervalClock where
  interval : Duration
  now : Instant
  ticker : Option Ticker
deriving DecidableEq, Repr

namespace IntervalClock

def standardInterval : Duration := .ofMicroseconds 16667

def every (interval : Duration) : IntervalClock := ⟨interval, .epoch, none⟩

def elapse (clock : IntervalClock) (step : Duration) : IntervalClock :=
  { clock with now := clock.now.after step }

def isSubscribed (clock : IntervalClock) : Bool := clock.ticker.isSome

def subscribe (clock : IntervalClock) : IntervalClock :=
  match clock.ticker with
  | some _ => clock
  | none => { clock with ticker := some (.start clock.interval clock.now) }

def unsubscribe (clock : IntervalClock) : IntervalClock := { clock with ticker := none }

/--
The time of the frame that has come up since the last call, if there is one. There is no answer if
the ticker has `limit` messages or more.
-/
def takeFrame? (clock : IntervalClock) (limit : Nat) : Option (Option Instant × IntervalClock) :=
  match clock.ticker with
  | none => some (none, clock)
  | some ticker =>
    (ticker.drain? clock.now limit).map fun (count, last) =>
      (if count = 0 then none else some clock.now, { clock with ticker := some last })

instance : Clock IntervalClock where
  now := now
  subscribe := subscribe
  unsubscribe := unsubscribe
  isSubscribed := isSubscribed

end IntervalClock

end ViewMotion
