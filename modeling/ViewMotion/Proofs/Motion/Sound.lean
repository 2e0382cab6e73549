import ViewMotion.Proofs.Motion.History

/-!
This module contains what holds for an animator after any requests, accepted or refused: it is
subscribed to its clock as long as it holds a motion, and it holds motions that are under way only.
-/

namespace ViewMotion

variable {K T : Type} [Scalar K] [Clock T]

omit [Scalar K] in
def AnimatorRequest.LeavesSubscription : AnimatorRequest K T → Prop
  | .changeClock change => ∀ clock, Clock.isSubscribed (change clock) = Clock.isSubscribed clock
  | _ => True

structure Motion.UnderWay (v : ViewId) (motion : Motion K) : Prop where
  view_eq : motion.view = v
  phase_cases : motion.phase = .pending ∨ motion.phase = .running
  isValid : motion.destination.isValid

namespace Animator

structure Sound (animator : Animator K T) : Prop where
  inStep : animator.InStep
  underWay {v : ViewId} {motion : Motion K} (h : animator.motion? v = some motion) :
    motion.UnderWay v

variable {animator : Animator K T}

omit [Scalar K] [Clock T] in
theorem isBusy_of_motion? {after : Animator K T}
    (h : ∀ v, animator.motion? v = none → after.motion? v = none) (hbusy : after.isBusy) :
    animator.isBusy := by
  rw [isBusy_iff] at hbusy ⊢
  rcases hbusy with ⟨v, hv⟩
  refine ⟨v, ?_⟩
  rw [isMoving_eq_isSome] at hv ⊢
  cases hmotion : animator.motion? v with
  | none =>
    rw [h v hmotion] at hv
    contradiction
  | some motion => rfl

section Frames

variable {V : Type} [HasBounds V K] (now : Instant) (views : V)

theorem frame_isBusy (h : (animator.frame now views).2.1.isBusy) : animator.isBusy := by
  apply isBusy_of_motion? _ h
  intro v hv
  have houtcome := animator.frame_outcome now views v
  rw [hv] at houtcome
  exact houtcome.2

theorem frame_inStep [LawfulClock T] (h : animator.InStep) :
    (animator.frame now views).2.1.InStep := by
  apply rest_inStep
  intro hbusy
  rw [← rest_isBusy] at hbusy
  change Clock.isSubscribed animator.clock
  rw [h]
  exact frame_isBusy now views hbusy

theorem frame_underWay (h : animator.Sound) {v : ViewId} {motion : Motion K}
    (hv : (animator.frame now views).2.1.motion? v = some motion) : motion.UnderWay v := by
  have houtcome := animator.frame_outcome now views v
  cases hold : animator.motion? v with
  | none =>
    rw [hold] at houtcome
    rw [houtcome.2] at hv
    contradiction
  | some old =>
    rw [hold] at houtcome
    rcases houtcome with ⟨-, hleft⟩ | ⟨-, hleft⟩
    · rw [hleft] at hv
      injection hv with hv
      rw [← hv]
      exact ⟨(h.underWay hold).view_eq, Or.inr rfl, (h.underWay hold).isValid⟩
    · rw [hleft] at hv
      contradiction

end Frames

theorem idle_sound {clock : T} (h : Clock.isSubscribed clock = false) (defaults : MotionDefaults) :
    (idle clock defaults : Animator K T).Sound where
  inStep := h
  underWay hmotion := by simp [idle, motion?] at hmotion

variable [LawfulClock T]

theorem begun_sound {V : Type} [HasBounds V K] (h : animator.Sound) {views : V} {v : ViewId}
    {destination : Rect K} {duration : Duration} :
    let result := animator.start views v destination duration
    (animator.begun v destination duration result).2.Sound := by
  dsimp only
  cases hstart : animator.start views v destination duration with
  | error e => exact h
  | ok started =>
    constructor
    case inStep => apply start_inStep hstart
    case underWay =>
      intro w motion hmotion
      change started.motion? w = some motion at hmotion
      rcases start_motion? hstart w with ⟨departure, -, hw⟩
      rw [hw] at hmotion
      split at hmotion
      · next heq =>
        injection hmotion with hmotion
        rw [← hmotion]
        exact ⟨heq, Or.inl rfl, (start_eq_ok hstart).1⟩
      · apply h.underWay hmotion

theorem respond_sound (h : animator.Sound) {request : AnimatorRequest K T}
    (hrequest : request.LeavesSubscription) : (animator.respond request).2.Sound := by
  cases request with
  | start views v destination duration => apply begun_sound h
  | startDefault views v destination => apply begun_sound h
  | stop v =>
    constructor
    case inStep => apply h.inStep.stop
    case underWay =>
      intro w motion hmotion
      change (animator.stop v).2.motion? w = some motion at hmotion
      rw [stop_motion?] at hmotion
      split at hmotion
      · contradiction
      · apply h.underWay hmotion
  | stopAll =>
    constructor
    case inStep =>
      apply rest_inStep
      intro hbusy
      contradiction
    case underWay =>
      intro v motion hmotion
      change animator.stopAll.motion? v = some motion at hmotion
      unfold stopAll motion? at hmotion
      rw [rest_motions] at hmotion
      simp at hmotion
  | frame views now =>
    constructor
    case inStep => apply frame_inStep now views h.inStep
    case underWay => exact fun hmotion => frame_underWay now views h hmotion
  | setDefaults defaults => exact ⟨h.inStep, h.underWay⟩
  | changeClock change =>
    constructor
    case inStep =>
      change Clock.isSubscribed (change animator.clock) = animator.isBusy
      rw [hrequest, h.inStep]
    case underWay => exact h.underWay

theorem run_sound (h : animator.Sound) {requests : List (AnimatorRequest K T)}
    (hrequests : ∀ request ∈ requests, request.LeavesSubscription) :
    (animator.run requests).Sound := by
  induction requests generalizing animator with
  | nil => exact h
  | cons request requests ih =>
    apply ih (respond_sound h (hrequests request List.mem_cons_self))
    exact fun later hlater => hrequests later (List.mem_cons_of_mem request hlater)

end Animator

section Counting

omit [Scalar K] in
def AnimatorRequest.LeavesSubscriptions : AnimatorRequest K ManualClock → Prop
  | .changeClock change => ∀ clock,
    (change clock).subscribed = clock.subscribed ∧
      (change clock).subscriptions = clock.subscriptions
  | _ => True

omit [Scalar K] in
theorem AnimatorRequest.LeavesSubscriptions.leavesSubscription
    {request : AnimatorRequest K ManualClock} (h : request.LeavesSubscriptions) :
    request.LeavesSubscription := by
  cases request with
  | changeClock change => exact fun clock => (h clock).1
  | _ => trivial

namespace Animator

omit [Scalar K] in
def awakens (animator after : Animator K T) : Bool := !animator.isBusy && after.isBusy

def awakenings (animator : Animator K T) : List (AnimatorRequest K T) → Nat
  | [] => 0
  | request :: requests =>
    let after := (animator.respond request).2
    (animator.awakens after).toNat + after.awakenings requests

variable {animator : Animator K ManualClock}

omit [Scalar K] in
theorem wake_subscriptions (animator : Animator K ManualClock) :
    animator.wake.clock.subscriptions =
      animator.clock.subscriptions + (!animator.clock.subscribed).toNat := by
  unfold wake
  dsimp only [Clock.isSubscribed, Clock.subscribe]
  unfold ManualClock.subscribe
  split
  · next hsub =>
    rw [hsub]
    rfl
  · next hsub =>
    rw [Bool.not_eq_true] at hsub
    rw [hsub]
    rfl

omit [Scalar K] in
theorem rest_subscriptions (animator : Animator K ManualClock) :
    animator.rest.clock.subscriptions = animator.clock.subscriptions := by
  unfold rest
  split <;> rfl

omit [Scalar K] in
theorem awakens_eq_false {after : Animator K ManualClock} (h : after.isBusy → animator.isBusy) :
    animator.awakens after = false := by
  unfold awakens
  cases hafter : after.isBusy with
  | false => rw [Bool.and_false]
  | true => rw [h hafter, Bool.not_true, Bool.false_and]

theorem begun_subscriptions {V : Type} [HasBounds V K] (h : animator.InStep) {views : V}
    {v : ViewId} {destination : Rect K} {duration : Duration} :
    let result := animator.start views v destination duration
    let after := (animator.begun v destination duration result).2
    after.clock.subscriptions =
      animator.clock.subscriptions + (animator.awakens after).toNat := by
  unfold begun
  cases hstart : animator.start views v destination duration with
  | error e =>
    dsimp only
    rw [awakens_eq_false id]
    rfl
  | ok started =>
    have hbusy := start_isBusy hstart
    have hsub : animator.clock.subscribed = animator.isBusy := h
    unfold awakens
    dsimp only
    rw [hbusy, Bool.and_true, ← hsub]
    rcases start_eq_ok hstart with ⟨-, departure, -, rfl⟩
    apply wake_subscriptions

theorem respond_subscriptions (h : animator.InStep) {request : AnimatorRequest K ManualClock}
    (hrequest : request.LeavesSubscriptions) :
    (animator.respond request).2.clock.subscriptions =
      animator.clock.subscriptions + (animator.awakens (animator.respond request).2).toNat := by
  cases request with
  | start views v destination duration => apply begun_subscriptions h
  | startDefault views v destination => apply begun_subscriptions h
  | stop v =>
    rw [awakens_eq_false]
    · change (animator.stop v).2.clock.subscriptions = _
      unfold stop
      split
      · apply rest_subscriptions
      · rfl
    · apply isBusy_of_motion?
      intro w hw
      change (animator.stop v).2.motion? w = none
      rw [stop_motion?, hw, ite_self]
  | stopAll =>
    rw [awakens_eq_false]
    · apply rest_subscriptions
    · intro hbusy
      change animator.stopAll.isBusy at hbusy
      unfold stopAll at hbusy
      rw [rest_isBusy] at hbusy
      contradiction
  | frame views now =>
    rw [awakens_eq_false]
    · apply rest_subscriptions
    · apply frame_isBusy
  | setDefaults defaults =>
    rw [awakens_eq_false]
    · rfl
    · apply id
  | changeClock change =>
    rw [awakens_eq_false]
    · exact (hrequest animator.clock).2
    · apply id

theorem run_subscriptions (h : animator.Sound) {requests : List (AnimatorRequest K ManualClock)}
    (hrequests : ∀ request ∈ requests, request.LeavesSubscriptions) :
    (animator.run requests).clock.subscriptions =
      animator.clock.subscriptions + animator.awakenings requests := by
  induction requests generalizing animator with
  | nil => rfl
  | cons request requests ih =>
    have hrequest := hrequests request List.mem_cons_self
    have hnext := respond_sound h hrequest.leavesSubscription
    have hlater (later) (h : later ∈ requests) := hrequests later (List.mem_cons_of_mem request h)
    rw [run_cons, ih hnext hlater, respond_subscriptions h.inStep hrequest, Nat.add_assoc]
    rfl

end Animator

end Counting

namespace AnimatorRequest

omit [Scalar K]

def setTime (now : Instant) : AnimatorRequest K ManualClock :=
  changeClock fun clock => clock.set now

def forward (step : Duration) : AnimatorRequest K ManualClock :=
  changeClock fun clock => (clock.forward step).toOption.getD clock

def elapse (step : Duration) : AnimatorRequest K IntervalClock :=
  changeClock fun clock => clock.elapse step

def takeFrame (limit : Nat) : AnimatorRequest K IntervalClock :=
  changeClock fun clock => (clock.takeFrame? limit).elim clock Prod.snd

theorem setTime_leavesSubscriptions (now : Instant) :
    (setTime now : AnimatorRequest K ManualClock).LeavesSubscriptions := fun _ => ⟨rfl, rfl⟩

theorem forward_leavesSubscriptions (step : Duration) :
    (forward step : AnimatorRequest K ManualClock).LeavesSubscriptions := by
  intro clock
  unfold ManualClock.forward
  dsimp only
  split
  · exact ⟨rfl, rfl⟩
  · exact ⟨rfl, rfl⟩

theorem elapse_leavesSubscription (step : Duration) :
    (elapse step : AnimatorRequest K IntervalClock).LeavesSubscription := fun _ => rfl

theorem takeFrame_leavesSubscription (limit : Nat) :
    (takeFrame limit : AnimatorRequest K IntervalClock).LeavesSubscription := by
  intro clock
  change ((clock.takeFrame? limit).elim clock Prod.snd).ticker.isSome = clock.ticker.isSome
  unfold IntervalClock.takeFrame?
  split
  · next hticker => rfl
  · next ticker hticker =>
    cases ticker.drain? clock.now limit with
    | none => rfl
    | some drained =>
      rw [hticker]
      rfl

end AnimatorRequest

end ViewMotion
