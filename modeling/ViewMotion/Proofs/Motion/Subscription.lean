import ViewMotion.Clock.Interval
import ViewMotion.Clock.Manual
import ViewMotion.Motion.Animator

/-!
This module contains what an animator may expect of its clock, and how the requests to the animator
keep its subscription in step with its motions.
-/

namespace ViewMotion

class LawfulClock (T : Type) [Clock T] : Prop where
  isSubscribed_subscribe (clock : T) : Clock.isSubscribed (Clock.subscribe clock)
  isSubscribed_unsubscribe (clock : T) : ¬ Clock.isSubscribed (Clock.unsubscribe clock)

instance : LawfulClock ManualClock where
  isSubscribed_subscribe clock := by
    change (ManualClock.subscribe clock).subscribed
    unfold ManualClock.subscribe
    split
    · next h => exact h
    · rfl
  isSubscribed_unsubscribe _ := Bool.false_ne_true

instance : LawfulClock IntervalClock where
  isSubscribed_subscribe clock := by
    change (IntervalClock.subscribe clock).ticker.isSome
    unfold IntervalClock.subscribe
    split
    · next h =>
      rw [h]
      rfl
    · rfl
  isSubscribed_unsubscribe _ := Bool.false_ne_true

namespace Animator

variable {K T : Type} [Clock T]

def InStep (animator : Animator K T) : Prop :=
  Clock.isSubscribed animator.clock = animator.isBusy

omit [Clock T] in
theorem isBusy_iff (animator : Animator K T) : animator.isBusy ↔ ∃ v, animator.isMoving v := by
  unfold isBusy isMoving
  rw [Bool.not_eq_true', ← Std.ExtTreeMap.isEmpty_keys, List.isEmpty_eq_false_iff_exists_mem]
  simp only [Std.ExtTreeMap.mem_keys, Std.ExtTreeMap.contains_iff_mem]

theorem rest_clock (animator : Animator K T) :
    animator.rest.clock =
      if animator.isBusy = false ∧ Clock.isSubscribed animator.clock then
        Clock.unsubscribe animator.clock
      else animator.clock := by
  unfold rest isBusy
  cases animator.motions.isEmpty with
  | false => rfl
  | true => cases Clock.isSubscribed animator.clock <;> rfl

theorem rest_isBusy (animator : Animator K T) : animator.rest.isBusy = animator.isBusy := by
  unfold isBusy
  rw [rest_motions]

theorem wake_isBusy (animator : Animator K T) : animator.wake.isBusy = animator.isBusy := by
  unfold isBusy
  rw [wake_motions]

theorem rest_inStep [LawfulClock T] {animator : Animator K T}
    (h : animator.isBusy → Clock.isSubscribed animator.clock) : animator.rest.InStep := by
  unfold InStep
  rw [rest_isBusy, rest_clock]
  split
  · next hidle =>
    rw [hidle.1, Bool.eq_false_iff]
    apply LawfulClock.isSubscribed_unsubscribe
  · next hidle =>
    cases hbusy : animator.isBusy with
    | false =>
      rw [Bool.eq_false_iff]
      apply fun hsub => hidle ⟨hbusy, hsub⟩
    | true => apply h hbusy

theorem wake_inStep [LawfulClock T] {animator : Animator K T} (h : animator.isBusy) :
    animator.wake.InStep := by
  unfold InStep
  rw [wake_isBusy, h]
  unfold wake
  split
  · next hsub => exact hsub
  · apply LawfulClock.isSubscribed_subscribe

section Starting

variable [Scalar K]

variable {V : Type} [HasBounds V K] {animator started : Animator K T} {views : V} {v : ViewId}
  {destination : Rect K} {duration : Duration}

theorem start_eq_ok (h : animator.start views v destination duration = .ok started) :
    destination.isValid ∧ ∃ departure, HasBounds.bounds? views v = some departure ∧
      started = { animator with
        motions := animator.motions.insert v {
          view := v
          departure
          destination
          began := Clock.now animator.clock
          duration
          easing := animator.defaults.easing
          phase := .pending
        } }.wake := by
  unfold start at h
  split at h
  · next hvalid =>
    split at h
    · contradiction
    · next departure hdeparture =>
      injection h with h
      exact ⟨hvalid, departure, hdeparture, h.symm⟩
  · contradiction

theorem start_motion? (h : animator.start views v destination duration = .ok started)
    (w : ViewId) :
    ∃ departure, HasBounds.bounds? views v = some departure ∧
      started.motion? w =
        if v = w then
          some {
            view := v
            departure
            destination
            began := Clock.now animator.clock
            duration
            easing := animator.defaults.easing
            phase := .pending
          }
        else animator.motion? w := by
  rcases start_eq_ok h with ⟨-, departure, hdeparture, rfl⟩
  refine ⟨departure, hdeparture, ?_⟩
  unfold motion?
  rw [wake_motions, Std.ExtTreeMap.getElem?_insert]
  simp only [Std.LawfulEqOrd.compare_eq_iff_eq]

theorem start_isBusy (h : animator.start views v destination duration = .ok started) :
    started.isBusy := by
  rcases start_eq_ok h with ⟨-, departure, -, rfl⟩
  rw [wake_isBusy, isBusy_iff]
  exact ⟨v, Std.ExtTreeMap.contains_insert_self⟩

theorem start_inStep [LawfulClock T]
    (h : animator.start views v destination duration = .ok started) : started.InStep := by
  have hbusy := start_isBusy h
  rcases start_eq_ok h with ⟨-, departure, -, rfl⟩
  rw [wake_isBusy] at hbusy
  apply wake_inStep hbusy

end Starting

theorem stop_fst (animator : Animator K T) (v : ViewId) :
    (animator.stop v).1 = animator.isMoving v := by
  unfold stop
  split
  · next hmoving => exact hmoving.symm
  · next hmoving => exact (Bool.eq_false_iff.mpr hmoving).symm

theorem stop_motion? (animator : Animator K T) (v w : ViewId) :
    (animator.stop v).2.motion? w = if v = w then none else animator.motion? w := by
  unfold stop
  split
  · unfold motion?
    rw [rest_motions, Std.ExtTreeMap.getElem?_erase]
    simp only [Std.LawfulEqOrd.compare_eq_iff_eq]
  · next hmoving =>
    unfold isMoving at hmoving
    split
    · next heq =>
      rw [← heq]
      rw [Std.ExtTreeMap.contains_iff_mem] at hmoving
      apply Std.ExtTreeMap.getElem?_eq_none hmoving
    · rfl

theorem InStep.stop [LawfulClock T] {animator : Animator K T} (h : animator.InStep) (v : ViewId) :
    (animator.stop v).2.InStep := by
  unfold Animator.stop
  split
  · next hmoving =>
    apply rest_inStep
    intro _
    -- there was a motion to stop, so the clock was waited for
    change Clock.isSubscribed animator.clock
    rw [h, isBusy_iff]
    exact ⟨v, hmoving⟩
  · exact h

theorem rest_rest [LawfulClock T] (animator : Animator K T)
    {motions motions' : Std.ExtTreeMap ViewId (Motion K)}
    (h : motions.isEmpty → motions'.isEmpty) :
    { { animator with motions := motions }.rest with motions := motions' }.rest =
      { animator with motions := motions' }.rest := by
  unfold rest
  dsimp only
  cases hsub : Clock.isSubscribed animator.clock with
  | false => simp [hsub]
  | true =>
    cases hempty : motions.isEmpty with
    | false => simp only [Bool.false_and, Bool.false_eq_true, if_false, hsub]
    | true =>
      have hunsub : Clock.isSubscribed (Clock.unsubscribe animator.clock) = false := by
        rw [Bool.eq_false_iff]
        apply LawfulClock.isSubscribed_unsubscribe
      simp [h hempty, hunsub]

end Animator

end ViewMotion
