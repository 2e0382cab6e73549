import ViewMotion.Clock.Interval

/-!
This module contains when a clock with an interval has a frame. That depends on what the clock was
asked for before: when somebody began to wait for it, and when it had a frame last.
-/

namespace ViewMotion

namespace Instant

def later (a b : Instant) : Instant := if a ≤ b then b else a

theorem later_of_le {a b : Instant} (h : a ≤ b) : a.later b = b := if_pos h

theorem later_of_ge {a b : Instant} (h : b ≤ a) : a.later b = a := by
  unfold later
  split
  · next hle =>
    cases a
    cases b
    simp only [le_def, mk.injEq] at *
    omega
  · rfl

theorem le_after {a b : Instant} (h : a ≤ b) (d : Duration) : a ≤ b.after d := by
  simp only [le_def, after] at *
  omega

theorem lt_after {d : Duration} (h : d.isZero = false) (t : Instant) : t < t.after d := by
  unfold Duration.isZero at h
  rw [beq_eq_false_iff_ne] at h
  change t.nanoseconds < t.nanoseconds + d.nanoseconds
  omega

theorem after_of_isZero {d : Duration} (h : d.isZero) (t : Instant) : t.after d = t := by
  unfold Duration.isZero at h
  rw [beq_iff_eq] at h
  unfold after
  rw [h, Int.natCast_zero, Int.add_zero]

theorem not_lt_iff {a b : Instant} : ¬ a < b ↔ b ≤ a := Int.not_lt

end Instant

namespace Ticker

variable {ticker last : Ticker} {now : Instant} {limit count : Nat}

theorem drain?_of_lt (h : now < ticker.due) (limit : Nat) :
    ticker.drain? now (limit + 1) = some (0, ticker) := by
  unfold drain? receive?
  rw [if_pos h]

section Due

variable (h : ticker.due ≤ now)

include h

theorem drain?_succ (limit : Nat) :
    ticker.drain? now (limit + 1) =
      ((start ticker.interval now).drain? now limit).map fun (count, last) => (count + 1, last) := by
  rw [← Instant.not_lt_iff] at h
  conv => lhs; unfold drain? receive?
  rw [if_neg h]

/--
The next message is not due before some time has passed.
-/
theorem drain?_of_due (hinterval : ticker.interval.isZero = false) (limit : Nat) :
    ticker.drain? now (limit + 2) = some (1, start ticker.interval now) := by
  have hlater : now < (start ticker.interval now).due := Instant.lt_after hinterval now
  rw [drain?_succ h, drain?_of_lt hlater]
  rfl

/--
The next message is due at once, and so are all others after it.
-/
theorem drain?_of_isZero (hinterval : ticker.interval.isZero) (limit : Nat) :
    ticker.drain? now limit = none := by
  induction limit generalizing ticker with
  | zero => rfl
  | succ limit ih =>
    have hnext : (start ticker.interval now).due = now := Instant.after_of_isZero hinterval now
    rw [drain?_succ h, ih (Int.le_of_eq (congrArg Instant.nanoseconds hnext)) hinterval]
    rfl

end Due

theorem drain?_cases (h : ticker.drain? now limit = some (count, last)) :
    now < ticker.due ∧ count = 0 ∧ last = ticker ∨
      ticker.due ≤ now ∧ count = 1 ∧ last = start ticker.interval now := by
  by_cases hlt : now < ticker.due
  · cases limit with
    | zero => contradiction
    | succ limit =>
      rw [drain?_of_lt hlt] at h
      cases h
      exact Or.inl ⟨hlt, rfl, rfl⟩
  · rw [Instant.not_lt_iff] at hlt
    cases hinterval : ticker.interval.isZero with
    | true =>
      rw [drain?_of_isZero hlt hinterval] at h
      contradiction
    | false =>
      match limit with
      | 0 => contradiction
      | 1 =>
        rw [drain?_succ hlt] at h
        contradiction
      | limit + 2 =>
        rw [drain?_of_due hlt hinterval] at h
        cases h
        exact Or.inr ⟨hlt, rfl, rfl⟩

end Ticker

namespace IntervalClock

inductive Request where
  | subscribe
  | unsubscribe
  | takeFrame
  | elapse (step : Duration)
deriving DecidableEq, Repr

/--
A request, when it was made and the frame that came of it.
-/
structure Entry where
  request : Request
  time : Instant
  frame : Option Instant
deriving DecidableEq, Repr

def perform? (limit : Nat) (clock : IntervalClock) :
    Request → Option (Option Instant × IntervalClock)
  | .subscribe => some (none, clock.subscribe)
  | .unsubscribe => some (none, clock.unsubscribe)
  | .takeFrame => clock.takeFrame? limit
  | .elapse step => some (none, clock.elapse step)

def run? (limit : Nat) (clock : IntervalClock) :
    List Request → Option (List Entry × IntervalClock)
  | [] => some ([], clock)
  | request :: requests => do
    let (frame, next) ← clock.perform? limit request
    let (log, last) ← next.run? limit requests
    return (⟨request, clock.now, frame⟩ :: log, last)

section Log

/--
Whoever subscribes again has been subscribed all the time.
-/
def subscribedSince? (log : List Entry) : Option Instant :=
  log.foldl enter none
where
  enter (since : Option Instant) (entry : Entry) : Option Instant :=
    match entry.request with
    | .subscribe => some (since.getD entry.time)
    | .unsubscribe => none
    | .takeFrame | .elapse _ => since

def lastFrame? (log : List Entry) : Option Instant := (log.filterMap Entry.frame).getLast?

def waitingSince? (log : List Entry) : Option Instant :=
  (subscribedSince? log).map fun since => (lastFrame? log).elim since since.later

/--
Somebody has been waiting for a whole interval, since the subscription and since the last frame.
-/
def FrameDue (interval : Duration) (log : List Entry) (now : Instant) : Prop :=
  ∃ since, waitingSince? log = some since ∧ since.after interval ≤ now

variable (log : List Entry) (entry : Entry)

theorem subscribedSince?_concat :
    subscribedSince? (log ++ [entry]) = subscribedSince?.enter (subscribedSince? log) entry := by
  unfold subscribedSince?
  rw [List.foldl_append]
  rfl

theorem lastFrame?_concat :
    lastFrame? (log ++ [entry]) = entry.frame.or (lastFrame? log) := by
  unfold lastFrame?
  rw [List.filterMap_append]
  cases hframe : entry.frame with
  | none => simp [hframe]
  | some frame => simp [hframe]

end Log

/--
The clock is in the state that the log tells.
-/
structure Tracks (interval : Duration) (log : List Entry) (clock : IntervalClock) : Prop where
  interval_eq : clock.interval = interval
  ticker_eq : clock.ticker = (waitingSince? log).map (Ticker.start interval)
  subscribed_le {since : Instant} (h : subscribedSince? log = some since) : since ≤ clock.now
  frame_le {frame : Instant} (h : lastFrame? log = some frame) : frame ≤ clock.now

variable {interval : Duration} {log : List Entry} {clock next : IntervalClock} {limit : Nat}
  {request : Request} {frame : Option Instant}

theorem takeFrame?_cases (h : clock.takeFrame? limit = some (frame, next)) :
    (∀ ticker, clock.ticker = some ticker → clock.now < ticker.due) ∧ frame = none ∧
        next = clock ∨
      ∃ ticker, clock.ticker = some ticker ∧ ticker.due ≤ clock.now ∧ frame = some clock.now ∧
        next = { clock with ticker := some (.start ticker.interval clock.now) } := by
  unfold takeFrame? at h
  cases hticker : clock.ticker with
  | none =>
    rw [hticker] at h
    cases h
    exact Or.inl ⟨nofun, rfl, rfl⟩
  | some ticker =>
    rw [hticker] at h
    dsimp only at h
    rw [Option.map_eq_some_iff] at h
    obtain ⟨⟨count, last⟩, hdrain, heq⟩ := h
    obtain ⟨hlt, rfl, rfl⟩ | ⟨hdue, rfl, rfl⟩ := Ticker.drain?_cases hdrain
    · rw [if_pos rfl, ← hticker] at heq
      cases heq
      exact Or.inl ⟨fun _ heq => Option.some.inj heq ▸ hlt, rfl, rfl⟩
    · cases heq
      exact Or.inr ⟨ticker, rfl, hdue, rfl, rfl⟩

theorem takeFrame?_of_not_due (h : ∀ ticker, clock.ticker = some ticker → clock.now < ticker.due)
    (limit : Nat) : clock.takeFrame? (limit + 1) = some (none, clock) := by
  unfold takeFrame?
  cases hticker : clock.ticker with
  | none => rfl
  | some ticker =>
    have hsame : { clock with ticker := some ticker } = clock := by rw [← hticker]
    dsimp only
    rw [Ticker.drain?_of_lt (h ticker hticker), Option.map_some, if_pos rfl, hsame]

theorem subscribe_of_isSubscribed (h : clock.isSubscribed) : clock.subscribe = clock := by
  unfold isSubscribed at h
  unfold subscribe
  split
  · rfl
  · next hnone =>
    rw [hnone] at h
    contradiction

theorem every_tracks (interval : Duration) : Tracks interval [] (every interval) :=
  ⟨rfl, rfl, nofun, nofun⟩

namespace Tracks

theorem waiting_le (h : Tracks interval log clock) {since : Instant}
    (hsince : waitingSince? log = some since) : since ≤ clock.now := by
  unfold waitingSince? at hsince
  rw [Option.map_eq_some_iff] at hsince
  obtain ⟨subscribed, hsubscribed, rfl⟩ := hsince
  cases hframe : lastFrame? log with
  | none => exact h.subscribed_le hsubscribed
  | some frame =>
    change Instant.later subscribed frame ≤ clock.now
    unfold Instant.later
    split
    · exact h.frame_le hframe
    · exact h.subscribed_le hsubscribed

theorem subscribed_iff (h : Tracks interval log clock) :
    clock.isSubscribed ↔ (subscribedSince? log).isSome := by
  unfold isSubscribed
  rw [h.ticker_eq]
  unfold waitingSince?
  rw [Option.isSome_map, Option.isSome_map]

/--
Nothing has come of the request, and nobody has begun or ceased to wait.
-/
theorem kept (h : Tracks interval log clock) {entry : Entry}
    (hsince : subscribedSince? (log ++ [entry]) = subscribedSince? log)
    (hframe : entry.frame = none) : Tracks interval (log ++ [entry]) clock := by
  have hlast : lastFrame? (log ++ [entry]) = lastFrame? log := by
    rw [lastFrame?_concat, hframe, Option.none_or]
  constructor
  case interval_eq => exact h.interval_eq
  case ticker_eq =>
    unfold waitingSince?
    rw [hsince, hlast]
    exact h.ticker_eq
  case subscribed_le =>
    rw [hsince]
    exact h.subscribed_le
  case frame_le =>
    rw [hlast]
    exact h.frame_le

theorem subscribe (h : Tracks interval log clock) :
    Tracks interval (log ++ [⟨.subscribe, clock.now, none⟩]) clock.subscribe := by
  have hsubscribed := h.subscribed_iff
  cases hsince : subscribedSince? log with
  | some since =>
    rw [hsince] at hsubscribed
    have hsame : clock.subscribe = clock := subscribe_of_isSubscribed (hsubscribed.mpr rfl)
    rw [hsame]
    apply h.kept _ rfl
    rw [subscribedSince?_concat, hsince]
    rfl
  | none =>
    have hnow : subscribedSince? (log ++ [⟨.subscribe, clock.now, none⟩]) = some clock.now := by
      rw [subscribedSince?_concat, hsince]
      rfl
    have hlast : lastFrame? (log ++ [⟨.subscribe, clock.now, none⟩]) = lastFrame? log := by
      rw [lastFrame?_concat, Option.none_or]
    have hticker : clock.ticker = none := by
      rw [h.ticker_eq]
      unfold waitingSince?
      rw [hsince]
      rfl
    have hclock : clock.subscribe =
        { clock with ticker := some (.start clock.interval clock.now) } := by
      unfold IntervalClock.subscribe
      rw [hticker]
    rw [hclock]
    constructor
    case interval_eq => exact h.interval_eq
    case ticker_eq =>
      unfold waitingSince?
      rw [hnow, hlast, h.interval_eq]
      cases hframe : lastFrame? log with
      | none => rfl
      | some frame =>
        change _ = some (Ticker.start interval (clock.now.later frame))
        rw [Instant.later_of_ge (h.frame_le hframe)]
    case subscribed_le =>
      intro since heq
      rw [hnow, Option.some.injEq] at heq
      exact heq ▸ Int.le_refl _
    case frame_le =>
      rw [hlast]
      exact h.frame_le

theorem unsubscribe (h : Tracks interval log clock) :
    Tracks interval (log ++ [⟨.unsubscribe, clock.now, none⟩]) clock.unsubscribe := by
  have hnone : subscribedSince? (log ++ [⟨.unsubscribe, clock.now, none⟩]) = none := by
    rw [subscribedSince?_concat]
    rfl
  have hlast : lastFrame? (log ++ [⟨.unsubscribe, clock.now, none⟩]) = lastFrame? log := by
    rw [lastFrame?_concat, Option.none_or]
  constructor
  case interval_eq => exact h.interval_eq
  case ticker_eq =>
    unfold waitingSince?
    rw [hnone]
    rfl
  case subscribed_le =>
    intro since heq
    rw [hnone] at heq
    contradiction
  case frame_le =>
    rw [hlast]
    exact h.frame_le

theorem elapse (h : Tracks interval log clock) (step : Duration) :
    Tracks interval (log ++ [⟨.elapse step, clock.now, none⟩]) (clock.elapse step) := by
  have hkept : Tracks interval (log ++ [⟨.elapse step, clock.now, none⟩]) clock := by
    apply h.kept _ rfl
    rw [subscribedSince?_concat]
    rfl
  exact {
    interval_eq := hkept.interval_eq
    ticker_eq := hkept.ticker_eq
    subscribed_le := fun hsince => Instant.le_after (hkept.subscribed_le hsince) step
    frame_le := fun hframe => Instant.le_after (hkept.frame_le hframe) step
  }

theorem waiting (h : Tracks interval log clock) {ticker : Ticker}
    (hticker : clock.ticker = some ticker) :
    ∃ since, waitingSince? log = some since ∧ ticker = .start interval since := by
  have hwaiting := h.ticker_eq
  rw [hticker, eq_comm, Option.map_eq_some_iff] at hwaiting
  obtain ⟨since, hsince, heq⟩ := hwaiting
  exact ⟨since, hsince, heq.symm⟩

theorem takeFrame (h : Tracks interval log clock)
    (htake : clock.takeFrame? limit = some (frame, next)) :
    Tracks interval (log ++ [⟨.takeFrame, clock.now, frame⟩]) next := by
  have hsince : subscribedSince? (log ++ [⟨.takeFrame, clock.now, frame⟩]) =
      subscribedSince? log := by
    rw [subscribedSince?_concat]
    rfl
  obtain ⟨-, rfl, rfl⟩ | ⟨ticker, hticker, -, rfl, rfl⟩ := takeFrame?_cases htake
  · exact h.kept hsince rfl
  · have hlast : lastFrame? (log ++ [⟨.takeFrame, clock.now, some clock.now⟩]) =
        some clock.now := by
      rw [lastFrame?_concat, Option.some_or]
    obtain ⟨_, hwaiting, rfl⟩ := h.waiting hticker
    unfold waitingSince? at hwaiting
    rw [Option.map_eq_some_iff] at hwaiting
    obtain ⟨since, hsubscribed, -⟩ := hwaiting
    constructor
    case interval_eq => exact h.interval_eq
    case ticker_eq =>
      unfold waitingSince?
      rw [hsince, hlast, hsubscribed]
      change _ = some (Ticker.start interval (since.later clock.now))
      rw [Instant.later_of_le (h.subscribed_le hsubscribed)]
      rfl
    case subscribed_le =>
      rw [hsince]
      exact h.subscribed_le
    case frame_le =>
      intro frame heq
      rw [hlast, Option.some.injEq] at heq
      exact heq ▸ Int.le_refl _

theorem perform (h : Tracks interval log clock)
    (hperform : clock.perform? limit request = some (frame, next)) :
    Tracks interval (log ++ [⟨request, clock.now, frame⟩]) next := by
  cases request with
  | subscribe =>
    cases hperform
    exact h.subscribe
  | unsubscribe =>
    cases hperform
    exact h.unsubscribe
  | takeFrame => exact h.takeFrame hperform
  | elapse step =>
    cases hperform
    exact h.elapse step

theorem run (h : Tracks interval log clock) {requests : List Request} {later : List Entry}
    {last : IntervalClock} (hrun : clock.run? limit requests = some (later, last)) :
    Tracks interval (log ++ later) last := by
  induction requests generalizing log clock later with
  | nil =>
    cases hrun
    rw [List.append_nil]
    exact h
  | cons request requests ih =>
    unfold run? at hrun
    simp only [Option.bind_eq_bind, Option.bind_eq_some_iff] at hrun
    obtain ⟨⟨frame, next⟩, hperform, ⟨rest, _⟩, hrest, heq⟩ := hrun
    cases heq
    have hlast := ih (h.perform hperform) hrest
    rw [List.append_assoc] at hlast
    exact hlast

section Taking

variable (h : Tracks interval log clock)

include h

theorem frameDue_iff : FrameDue interval log clock.now ↔
    ∃ ticker, clock.ticker = some ticker ∧ ticker.due ≤ clock.now := by
  unfold FrameDue
  rw [h.ticker_eq]
  constructor
  · intro ⟨since, hsince, hdue⟩
    rw [hsince]
    exact ⟨_, rfl, hdue⟩
  · intro ⟨ticker, hticker, hdue⟩
    rw [Option.map_eq_some_iff] at hticker
    obtain ⟨since, hsince, rfl⟩ := hticker
    exact ⟨since, hsince, hdue⟩

theorem takeFrame?_of_isZero (hinterval : interval.isZero) (hsubscribed : clock.isSubscribed)
    (limit : Nat) : clock.takeFrame? limit = none := by
  unfold isSubscribed at hsubscribed
  rw [Option.isSome_iff_exists] at hsubscribed
  obtain ⟨ticker, hticker⟩ := hsubscribed
  obtain ⟨since, hsince, rfl⟩ := h.waiting hticker
  have hdue : (Ticker.start interval since).due = since := Instant.after_of_isZero hinterval since
  have hle : (Ticker.start interval since).due ≤ clock.now := by
    rw [hdue]
    exact h.waiting_le hsince
  unfold takeFrame?
  rw [hticker]
  dsimp only
  rw [Ticker.drain?_of_isZero hle hinterval]
  rfl

theorem takeFrame?_isSome (hends : ¬ (interval.isZero ∧ clock.isSubscribed)) (limit : Nat) :
    (clock.takeFrame? (limit + 2)).isSome := by
  by_cases hlt : ∀ ticker, clock.ticker = some ticker → clock.now < ticker.due
  · rw [takeFrame?_of_not_due hlt]
    rfl
  · simp only [Classical.not_forall, exists_prop, Instant.not_lt_iff] at hlt
    obtain ⟨ticker, hticker, hdue⟩ := hlt
    obtain ⟨since, -, rfl⟩ := h.waiting hticker
    have hsubscribed : clock.isSubscribed := congrArg Option.isSome hticker
    have hinterval : interval.isZero = false :=
      Bool.eq_false_iff.mpr fun hzero => hends ⟨hzero, hsubscribed⟩
    unfold takeFrame?
    rw [hticker]
    dsimp only
    rw [Ticker.drain?_of_due hdue hinterval]
    rfl

theorem takeFrame?_again (htake : clock.takeFrame? limit = some (frame, next)) (limit' : Nat) :
    next.takeFrame? (limit' + 1) = some (none, next) := by
  apply takeFrame?_of_not_due
  obtain ⟨hlt, -, rfl⟩ | ⟨ticker, hticker, -, -, rfl⟩ := takeFrame?_cases htake
  · exact hlt
  · obtain ⟨since, -, rfl⟩ := h.waiting hticker
    have hinterval : interval.isZero = false := by
      rw [Bool.eq_false_iff]
      intro hzero
      rw [h.takeFrame?_of_isZero hzero (congrArg Option.isSome hticker)] at htake
      contradiction
    intro ticker heq
    cases heq
    exact Instant.lt_after hinterval clock.now

theorem perform?_isSome (hinterval : interval.isZero = false) (limit : Nat) (request : Request) :
    (clock.perform? (limit + 2) request).isSome := by
  cases request with
  | takeFrame =>
    apply h.takeFrame?_isSome
    intro ⟨hzero, _⟩
    exact Bool.eq_false_iff.mp hinterval hzero
  | _ => rfl

omit h in
theorem run?_isSome (h : Tracks interval log clock) (hinterval : interval.isZero = false)
    (limit : Nat) (requests : List Request) : (clock.run? (limit + 2) requests).isSome := by
  induction requests generalizing log clock with
  | nil => rfl
  | cons request requests ih =>
    have hperform := h.perform?_isSome hinterval limit request
    rw [Option.isSome_iff_exists] at hperform
    obtain ⟨⟨frame, next⟩, hperform⟩ := hperform
    have hrest := ih (h.perform hperform)
    rw [Option.isSome_iff_exists] at hrest
    obtain ⟨⟨rest, last⟩, hrest⟩ := hrest
    unfold run?
    simp [hperform, hrest]

end Taking

end Tracks

/--
A frame comes if and only if it is due, and never two at once. If the interval is zero, there is
always another message, and so there is no answer to somebody who is subscribed.
-/
theorem frames_come_when_due (interval : Duration) {limit : Nat} (hlimit : 2 ≤ limit)
    (requests : List Request) :
    (interval.isZero = false → ((every interval).run? limit requests).isSome) ∧
      ∀ log clock, (every interval).run? limit requests = some (log, clock) →
        (clock.isSubscribed → clock.subscribe = clock) ∧
          if interval.isZero ∧ clock.isSubscribed then ∀ limit, clock.takeFrame? limit = none
          else ∃ frame after, clock.takeFrame? limit = some (frame, after) ∧
            (∀ time, frame = some time ↔
              time = clock.now ∧ FrameDue interval log clock.now) ∧
            after.takeFrame? limit = some (none, after) := by
  obtain ⟨limit, rfl⟩ := Nat.exists_eq_add_of_le' hlimit
  have hstart := every_tracks interval
  refine ⟨fun hinterval => hstart.run?_isSome hinterval limit requests, ?_⟩
  intro log clock hrun
  have htracks : Tracks interval log clock := hstart.run hrun
  refine ⟨subscribe_of_isSubscribed, ?_⟩
  split
  · next hzero => exact htracks.takeFrame?_of_isZero hzero.1 hzero.2
  · next hends =>
    have htake := htracks.takeFrame?_isSome hends limit
    rw [Option.isSome_iff_exists] at htake
    obtain ⟨⟨frame, after⟩, htake⟩ := htake
    refine ⟨frame, after, htake, ?_, htracks.takeFrame?_again htake (limit + 1)⟩
    intro time
    rw [htracks.frameDue_iff]
    obtain ⟨hlt, rfl, -⟩ | ⟨ticker, hticker, hdue, rfl, -⟩ := takeFrame?_cases htake
    · constructor
      · exact nofun
      · intro ⟨_, ticker, hticker, hdue⟩
        exact absurd (hlt ticker hticker) (Instant.not_lt_iff.mpr hdue)
    · constructor
      · intro heq
        cases heq
        exact ⟨rfl, ticker, hticker, hdue⟩
      · intro ⟨heq, _⟩
        rw [heq]

theorem frames_come_when_due_after_backlog :
    let requests : List Request := [.subscribe, .elapse ⟨7⟩, .takeFrame, .unsubscribe, .elapse ⟨1⟩,
      .subscribe, .elapse ⟨2⟩, .subscribe, .elapse ⟨30⟩]
    ∃ log clock, (every ⟨5⟩).run? 2 requests = some (log, clock) ∧ waitingSince? log = some ⟨8⟩ ∧
      ∃ frame after, clock.takeFrame? 2 = some (frame, after) ∧
        (∀ time, frame = some time ↔ time = ⟨40⟩ ∧ FrameDue ⟨5⟩ log ⟨40⟩) ∧
        after.takeFrame? 2 = some (none, after) := by
  intro requests
  have hframes := frames_come_when_due ⟨5⟩ (Nat.le_refl 2) requests
  have hvalues : ∃ log clock, (every ⟨5⟩).run? 2 requests = some (log, clock) ∧
      waitingSince? log = some ⟨8⟩ ∧ clock.now = ⟨40⟩ := ⟨_, _, rfl, rfl, rfl⟩
  obtain ⟨log, clock, hrun, hsince, hnow⟩ := hvalues
  have htake := (hframes.2 log clock hrun).2
  rw [if_neg (fun hzero => Bool.false_ne_true hzero.1), hnow] at htake
  exact ⟨log, clock, hrun, hsince, htake⟩

/--
However many messages are taken, the next one is there already.
-/
theorem zero_interval_never_answers :
    ¬ ∃ limit, ((every ⟨0⟩).subscribe.takeFrame? limit).isSome := by
  intro ⟨limit, hanswer⟩
  have htracks : Tracks ⟨0⟩ [⟨.subscribe, .epoch, none⟩] (every ⟨0⟩).subscribe :=
    (every_tracks ⟨0⟩).subscribe
  rw [htracks.takeFrame?_of_isZero rfl rfl] at hanswer
  contradiction

end IntervalClock

end ViewMotion
