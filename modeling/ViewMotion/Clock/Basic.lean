import ViewMotion.Time

/-!
This module contains what an animator asks of a clock: the time, and whether somebody waits for its
frames.
-/

namespace ViewMotion

class Clock (T : Type) where
  now : T → Instant
  subscribe : T → T
  unsubscribe : T → T
  isSubscribed : T → Bool

end ViewMotion
