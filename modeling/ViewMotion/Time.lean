/-!
This module contains durations and points in time, both in nanoseconds. Points in time are counted
from an arbitrary epoch.
-/

namespace ViewMotion

structure Duration where
  nanoseconds : Nat
deriving DecidableEq, Repr, Inhabited

structure Instant where
  nanoseconds : Int
deriving DecidableEq, Repr, Inhabited

namespace Duration

def ofSeconds (seconds nanoseconds : Nat) : Duration := ⟨seconds * 1000000000 + nanoseconds⟩

def ofMilliseconds (milliseconds : Nat) : Duration := ⟨milliseconds * 1000000⟩

def ofMicroseconds (microseconds : Nat) : Duration := ⟨microseconds * 1000⟩

def seconds (d : Duration) : Nat := d.nanoseconds / 1000000000

def subsecond (d : Duration) : Nat := d.nanoseconds % 1000000000

def isZero (d : Duration) : Bool := d.nanoseconds == 0

/--
The seconds are counted in 64 bits.
-/
def isRepresentable (d : Duration) : Bool := d.seconds < Nat.pow 2 64

theorem ofSeconds_seconds_subsecond (d : Duration) : ofSeconds d.seconds d.subsecond = d := by
  cases d
  simp only [ofSeconds, seconds, subsecond, mk.injEq]
  omega

end Duration

namespace Instant

def epoch : Instant := ⟨0⟩

instance : LE Instant := ⟨fun a b => a.nanoseconds ≤ b.nanoseconds⟩

instance : LT Instant := ⟨fun a b => a.nanoseconds < b.nanoseconds⟩

instance (a b : Instant) : Decidable (a ≤ b) :=
  inferInstanceAs (Decidable (a.nanoseconds ≤ b.nanoseconds))

instance (a b : Instant) : Decidable (a < b) :=
  inferInstanceAs (Decidable (a.nanoseconds < b.nanoseconds))

theorem le_def {a b : Instant} : a ≤ b ↔ a.nanoseconds ≤ b.nanoseconds := Iff.rfl

def after (t : Instant) (d : Duration) : Instant := ⟨t.nanoseconds + d.nanoseconds⟩

/--
No time has passed before `start`.
-/
def since (t start : Instant) : Duration := ⟨(t.nanoseconds - start.nanoseconds).toNat⟩

def isRepresentable (t : Instant) : Bool := t.nanoseconds / 1000000000 < Nat.pow 2 63

end Instant

end ViewMotion
