import ViewMotion.Proofs.Motion.Frame
import ViewMotion.Proofs.Motion.Subscription
import ViewMotion.Proofs.Motion.Trajectory

/-!
This module contains what several requests to move the same view come to if no time passes between
them: the last one counts, and the view sets out from where it is.
-/

namespace ViewMotion

/--
Waiting for the clock takes no time.
-/
class SteadyClock (T : Type) [Clock T] : Prop extends LawfulClock T where
  now_subscribe (clock : T) : Clock.now (Clock.subscribe clock) = Clock.now clock

instance : SteadyClock ManualClock where
  now_subscribe clock := by
    change (ManualClock.subscribe clock).now = clock.now
    unfold ManualClock.subscribe
    split <;> rfl

instance : SteadyClock IntervalClock where
  now_subscribe clock := by
    change (IntervalClock.subscribe clock).now = clock.now
    unfold IntervalClock.subscribe
    split <;> rfl

section Rousing

variable {T : Type} [Clock T] (clock : T)

def roused : T := if Clock.isSubscribed clock then clock else Clock.subscribe clock

theorem roused_roused [LawfulClock T] : roused (roused clock) = roused clock := by
  unfold roused
  split
  · rfl
  · rw [if_pos (LawfulClock.isSubscribed_subscribe clock)]

theorem now_roused [SteadyClock T] : Clock.now (roused clock) = Clock.now clock := by
  unfold roused
  split
  · rfl
  · exact SteadyClock.now_subscribe clock

end Rousing

namespace Animator

variable {K T V : Type} [Clock T]

theorem wake_eq (animator : Animator K T) :
    animator.wake = { animator with clock := roused animator.clock } := by
  unfold wake roused
  split <;> rfl

theorem insert_insert_self {β : Type} (entries : Std.ExtTreeMap ViewId β) (v : ViewId) (x y : β) :
    (entries.insert v x).insert v y = entries.insert v y := by
  apply Std.ExtTreeMap.ext_getElem?
  intro w
  simp only [Std.ExtTreeMap.getElem?_insert, Std.LawfulEqOrd.compare_eq_iff_eq]
  split <;> rfl

variable [Scalar K] [HasBounds V K] [SteadyClock T] {animator next after : Animator K T}
  {views : V} {v : ViewId}

theorem start_start {first : Rect K} {firstDuration : Duration}
    (h : animator.start views v first firstDuration = .ok next) (destination : Rect K)
    (duration : Duration) :
    next.start views v destination duration = animator.start views v destination duration := by
  rcases start_eq_ok h with ⟨-, departure, -, rfl⟩
  unfold start
  split
  · cases HasBounds.bounds? views v with
    | none => rfl
    | some departure =>
      simp only [wake_eq, insert_insert_self, now_roused, roused_roused]
  · rfl

/--
The requests are made one after the other, until one of them is refused.
-/
def startEach (views : V) (v : ViewId) :
    List (Rect K × Duration) → Animator K T → Except (MotionError K) (Animator K T)
  | [], animator => .ok animator
  | (destination, duration) :: rest, animator =>
    match animator.start views v destination duration with
    | .error e => .error e
    | .ok next => startEach views v rest next

omit [SteadyClock T] in
theorem startEach_cons {request : Rect K × Duration} {requests : List (Rect K × Duration)}
    (h : animator.startEach views v (request :: requests) = .ok after) :
    ∃ next, animator.start views v request.1 request.2 = .ok next ∧
      next.startEach views v requests = .ok after := by
  unfold startEach at h
  split at h
  · contradiction
  · next next hnext => exact ⟨next, hnext, h⟩

theorem startEach_concat {requests : List (Rect K × Duration)} {destination : Rect K}
    {duration : Duration}
    (h : animator.startEach views v (requests ++ [(destination, duration)]) = .ok after) :
    animator.start views v destination duration = .ok after := by
  induction requests generalizing animator with
  | nil =>
    rcases startEach_cons h with ⟨next, hnext, heq⟩
    injection heq with heq
    rw [← heq]
    exact hnext
  | cons request requests ih =>
    rcases startEach_cons h with ⟨next, hnext, hrest⟩
    rw [← start_start hnext]
    exact ih hrest

theorem start_now {destination : Rect K} {duration : Duration}
    (h : animator.start views v destination duration = .ok after) :
    Clock.now after.clock = Clock.now animator.clock := by
  rcases start_eq_ok h with ⟨-, departure, -, rfl⟩
  rw [wake_eq, now_roused]

theorem frame_bounds?_of_start {animator after : Animator Rat T} {tree : ViewTree Rat}
    {destination : Rect Rat} {duration : Duration}
    (h : animator.start tree v destination duration = .ok after) (hduration : ¬ duration.isZero)
    {now : Instant} (hnow : now ≤ Clock.now after.clock) :
    (after.frame now tree).2.2.bounds? v = tree.bounds? v := by
  rw [start_now h] at hnow
  rcases start_motion? h v with ⟨departure, hdeparture, hmotion⟩
  change tree.bounds? v = some departure at hdeparture
  rw [if_pos rfl] at hmotion
  rw [frame_bounds?, hmotion, hdeparture]
  dsimp only [Option.map_some]
  rw [Motion.rectAt_eq_lerp, Motion.covered_of_le_began _ hduration hnow, Rect.lerp_zero]

/--
Of all requests about a view that are made at one time the last one counts, and the view does not
jump.
-/
theorem last_request_counts (T : Type) [Clock T] [SteadyClock T] (v : ViewId)
    (duration : Duration) :
    (∀ (K : Type) [Scalar K] (animator after : Animator K T) (tree : ViewTree K)
        (requests : List (Rect K × Duration)) (destination : Rect K),
      animator.startEach tree v (requests ++ [(destination, duration)]) = .ok after →
        animator.start tree v destination duration = .ok after ∧
          ∃ departure, tree.bounds? v = some departure ∧
            (after.motion? v).map Motion.departure = some departure) ∧
      ∀ (animator after : Animator Rat T) (tree : ViewTree Rat)
        (requests : List (Rect Rat × Duration)) (destination : Rect Rat),
        animator.startEach tree v (requests ++ [(destination, duration)]) = .ok after →
          ¬ duration.isZero → ∀ now ≤ Clock.now after.clock,
            (after.frame now tree).2.2.bounds? v = tree.bounds? v := by
  constructor
  · intro K _ animator after tree requests destination h
    have hlast := startEach_concat h
    refine ⟨hlast, ?_⟩
    rcases start_motion? hlast v with ⟨departure, hdeparture, hmotion⟩
    refine ⟨departure, hdeparture, ?_⟩
    rw [hmotion, if_pos rfl]
    rfl
  · intro animator after tree requests destination h hduration now hnow
    exact frame_bounds?_of_start (startEach_concat h) hduration hnow

theorem last_request_counts_in_flight :
    let motion : Motion Rat := {
      view := ⟨0⟩
      departure := .zero
      destination := .ofXYWH 10 20 30 40
      began := .epoch
      duration := ⟨8⟩
      easing := .linear
      phase := .running
    }
    let animator : Animator Rat ManualClock := {
      clock := ⟨⟨4⟩, true, 1⟩
      defaults := {}
      motions := Std.ExtTreeMap.ofList [((⟨0⟩ : ViewId), motion)]
    }
    let tree : ViewTree Rat := ((ViewTree.ofRoot ⟨0⟩).place ⟨0⟩ (motion.rectAt ⟨4⟩)).2
    let requests := [(Rect.zero, (⟨0⟩ : Duration)), (.ofXYWH 5 5 5 5, ⟨3⟩), (.ofXYWH 0 1 2 3, ⟨6⟩)]
    tree.bounds? ⟨0⟩ = some (.ofXYWH 5 10 15 20) ∧
      ∃ after, animator.startEach tree ⟨0⟩ requests = .ok after ∧
        animator.start tree ⟨0⟩ (.ofXYWH 0 1 2 3) ⟨6⟩ = .ok after ∧
        (after.motion? ⟨0⟩).map Motion.departure = some (.ofXYWH 5 10 15 20) ∧
        (after.frame ⟨4⟩ tree).2.2.bounds? ⟨0⟩ = some (.ofXYWH 5 10 15 20) := by
  intro motion animator tree requests
  have htree : tree.bounds? ⟨0⟩ = some (.ofXYWH 5 10 15 20) := by decide +kernel
  refine ⟨htree, ?_⟩
  cases hafter : animator.startEach tree ⟨0⟩ requests with
  | error e =>
    have hok : (animator.startEach tree ⟨0⟩ requests).isOk := by decide +kernel
    rw [hafter] at hok
    contradiction
  | ok after =>
    have hcounts := last_request_counts ManualClock ⟨0⟩ ⟨6⟩
    obtain ⟨hlast, departure, hdeparture, hmotion⟩ :=
      hcounts.1 Rat animator after tree (requests.take 2) _ hafter
    have hrests := hcounts.2 animator after tree (requests.take 2) _ hafter (by decide) ⟨4⟩
    rw [htree] at hdeparture hrests
    refine ⟨after, rfl, hlast, hmotion.trans hdeparture.symm, hrests ?_⟩
    rw [start_now hlast]
    decide

end Animator

end ViewMotion
