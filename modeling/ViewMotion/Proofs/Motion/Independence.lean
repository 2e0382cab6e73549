import ViewMotion.Clock.Manual
import ViewMotion.Proofs.Motion.Frame
import ViewMotion.Proofs.Motion.Subscription
import ViewMotion.Proofs.ViewTree.Agreement

/-!
This module contains what a view can tell of the motions of other views, which is nothing: it fares
the same if the requests about them are left out.
-/

namespace ViewMotion

variable {K : Type}

namespace Animator

structure AgreeOn (v : ViewId) (animator animator' : Animator K ManualClock) : Prop where
  motion?_eq : animator'.motion? v = animator.motion? v
  defaults_eq : animator'.defaults = animator.defaults
  now_eq : animator'.clock.now = animator.clock.now

theorem wake_defaults (animator : Animator K ManualClock) :
    animator.wake.defaults = animator.defaults := by
  unfold wake
  split <;> simp

theorem rest_defaults (animator : Animator K ManualClock) :
    animator.rest.defaults = animator.defaults := by
  unfold rest
  split <;> simp

theorem wake_now (animator : Animator K ManualClock) :
    animator.wake.clock.now = animator.clock.now := by
  unfold wake
  split
  · simp
  · simp only [Clock.subscribe, ManualClock.subscribe]
    split <;> simp

theorem rest_now (animator : Animator K ManualClock) :
    animator.rest.clock.now = animator.clock.now := by
  unfold rest
  split <;> simp [Clock.unsubscribe, ManualClock.unsubscribe]

theorem stop_defaults (animator : Animator K ManualClock) (v : ViewId) :
    (animator.stop v).2.defaults = animator.defaults := by
  unfold stop
  split <;> simp [rest_defaults]

theorem stop_now (animator : Animator K ManualClock) (v : ViewId) :
    (animator.stop v).2.clock.now = animator.clock.now := by
  unfold stop
  split <;> simp [rest_now]

namespace AgreeOn

variable {v : ViewId} {animator animator' : Animator K ManualClock}

theorem wake (h : AgreeOn v animator animator') : AgreeOn v animator.wake animator'.wake := by
  constructor
  case motion?_eq =>
    unfold motion?
    rw [wake_motions, wake_motions]
    apply h.motion?_eq
  case defaults_eq => simp only [wake_defaults, h.defaults_eq]
  case now_eq => simp only [wake_now, h.now_eq]

theorem rest (h : AgreeOn v animator animator') : AgreeOn v animator.rest animator'.rest := by
  constructor
  case motion?_eq =>
    unfold motion?
    rw [rest_motions, rest_motions]
    apply h.motion?_eq
  case defaults_eq => simp only [rest_defaults, h.defaults_eq]
  case now_eq => simp only [rest_now, h.now_eq]

theorem stop (h : AgreeOn v animator animator') (w : ViewId) :
    AgreeOn v (animator.stop w).2 (animator'.stop w).2 := by
  constructor
  case motion?_eq => rw [stop_motion?, stop_motion?, h.motion?_eq]
  case defaults_eq => simp only [stop_defaults, h.defaults_eq]
  case now_eq => simp only [stop_now, h.now_eq]

theorem stopAll (h : AgreeOn v animator animator') :
    AgreeOn v animator.stopAll animator'.stopAll := by
  unfold Animator.stopAll
  apply rest
  exact ⟨by simp [motion?], h.defaults_eq, h.now_eq⟩

end AgreeOn

end Animator

structure Stage (K : Type) where
  views : NamedTree K
  animator : Animator K ManualClock

inductive StageRequest (K : Type) where
  | onTree (request : TreeRequest K)
  | start (v : ViewId) (destination : Rect K) (duration : Duration)
  | startDefault (v : ViewId) (destination : Rect K)
  | stop (v : ViewId)
  | stopAll
  | frame (now : Instant)
  | setDefaults (defaults : MotionDefaults)
  | setTime (now : Instant)
  | forward (step : Duration)
  | subscribe
  | unsubscribe

-- a request that says something about the view, or about all views together
def StageRequest.concerns (v : ViewId) : StageRequest K → Bool
  | .start w _ _ | .startDefault w _ | .stop w | .onTree (.place w _) => w == v
  | _ => true

namespace Stage

variable [Scalar K]

def begun (stage : Stage K) (result : Except (MotionError K) (Animator K ManualClock)) : Stage K :=
  match result with
  | .error _ => stage
  | .ok animator => { stage with animator }

def withClock (stage : Stage K) (clock : ManualClock) : Stage K :=
  { stage with animator := { stage.animator with clock } }

def perform (stage : Stage K) : StageRequest K → Stage K
  | .onTree request => { stage with views := stage.views.perform request }
  | .start v destination duration =>
    stage.begun (stage.animator.start stage.views.tree v destination duration)
  | .startDefault v destination =>
    stage.begun (stage.animator.startDefault stage.views.tree v destination)
  | .stop v => { stage with animator := (stage.animator.stop v).2 }
  | .stopAll => { stage with animator := stage.animator.stopAll }
  | .frame now =>
    let (_, animator, tree) := stage.animator.frame now stage.views.tree
    ⟨{ stage.views with tree }, animator⟩
  | .setDefaults defaults => { stage with animator := { stage.animator with defaults } }
  | .setTime now => stage.withClock (stage.animator.clock.set now)
  | .forward step =>
    match stage.animator.clock.forward step with
    | .error _ => stage
    | .ok clock => stage.withClock clock
  | .subscribe => stage.withClock stage.animator.clock.subscribe
  | .unsubscribe => stage.withClock stage.animator.clock.unsubscribe

def report? (stage : Stage K) : StageRequest K → Option FrameReport
  | .frame now => some (stage.animator.frame now stage.views.tree).1
  | _ => none

def run (stage : Stage K) (requests : List (StageRequest K)) : Stage K :=
  requests.foldl perform stage

def reports (stage : Stage K) : List (StageRequest K) → List FrameReport
  | [] => []
  | request :: requests =>
    (stage.report? request).toList ++ (stage.perform request).reports requests

structure AgreeOn (v : ViewId) (stage stage' : Stage K) : Prop where
  views : NamedTree.AgreeOn v stage.views stage'.views
  animator : Animator.AgreeOn v stage.animator stage'.animator

variable {v : ViewId} {stage stage' : Stage K}

theorem AgreeOn.start (h : AgreeOn v stage stage') (destination : Rect K) (duration : Duration) :
    AgreeOn v (stage.perform (.start v destination duration))
      (stage'.perform (.start v destination duration)) := by
  have hbounds := h.views.tree.bounds?_eq
  simp only [perform, begun, Animator.start, HasBounds.bounds?, hbounds]
  cases destination.isValid with
  | false => exact h
  | true =>
    cases stage.views.tree.bounds? v with
    | none => exact h
    | some departure =>
      simp only [if_true, h.animator.defaults_eq, Clock.now, h.animator.now_eq]
      refine ⟨h.views, Animator.AgreeOn.wake ?_⟩
      exact ⟨by simp [Animator.motion?], rfl, h.animator.now_eq⟩

theorem frame_agreeOn_tree (h : AgreeOn v stage stage') (now : Instant) :
    ViewTree.AgreeOn v (stage.perform (.frame now)).views.tree
      (stage'.perform (.frame now)).views.tree := by
  have hkeeps {β : Type} (part : ViewTree K → β)
      (hplace : ∀ tree w bounds, part (tree.place w bounds).2 = part tree)
      (hpart : part stage'.views.tree = part stage.views.tree) :
      part (stage'.perform (.frame now)).views.tree =
        part (stage.perform (.frame now)).views.tree := by
    simp only [perform, Animator.frame_keeps _ now _ part hplace, hpart]
  constructor
  case root_eq => apply hkeeps _ ViewTree.place_root h.views.tree.root_eq
  case kinds_eq => apply hkeeps _ ViewTree.place_kinds h.views.tree.kinds_eq
  case superviews_eq => apply hkeeps _ ViewTree.place_superviews h.views.tree.superviews_eq
  case subviewLists_eq => apply hkeeps _ ViewTree.place_subviewLists h.views.tree.subviewLists_eq
  case groups_eq => apply hkeeps _ ViewTree.place_groups h.views.tree.groups_eq
  case bounds?_eq =>
    simp only [perform, Animator.frame_bounds?, h.animator.motion?_eq, h.views.tree.bounds?_eq]

theorem AgreeOn.frame (h : AgreeOn v stage stage') (now : Instant) :
    AgreeOn v (stage.perform (.frame now)) (stage'.perform (.frame now)) := by
  refine ⟨⟨frame_agreeOn_tree h now, h.views.names_eq⟩, ?_⟩
  have hbounds : (stage'.views.tree.bounds? v).isSome = (stage.views.tree.bounds? v).isSome := by
    rw [h.views.tree.bounds?_eq]
  constructor
  case motion?_eq =>
    simp only [perform, Animator.frame_motion?, h.animator.motion?_eq]
    congr 1
    funext motion
    apply Motion.left?_congr hbounds
  case defaults_eq =>
    simp only [perform, Animator.frame_animator, Animator.rest_defaults, h.animator.defaults_eq]
  case now_eq =>
    simp only [perform, Animator.frame_animator, Animator.rest_now, h.animator.now_eq]

theorem AgreeOn.endings_eq (h : AgreeOn v stage stage') (now : Instant) :
    (stage'.animator.frame now stage'.views.tree).1.endings v =
      (stage.animator.frame now stage.views.tree).1.endings v := by
  have hbounds : (stage'.views.tree.bounds? v).isSome = (stage.views.tree.bounds? v).isSome := by
    rw [h.views.tree.bounds?_eq]
  simp only [Animator.frame_endings, h.animator.motion?_eq]
  congr 2
  funext motion
  apply Motion.ending?_congr hbounds

omit [Scalar K] in
theorem AgreeOn.withClock (h : AgreeOn v stage stage') {clock clock' : ManualClock}
    (hnow : clock'.now = clock.now) : AgreeOn v (stage.withClock clock) (stage'.withClock clock') :=
  ⟨h.views, h.animator.motion?_eq, h.animator.defaults_eq, hnow⟩

theorem perform_startDefault (w : ViewId) (destination : Rect K) :
    stage.perform (.startDefault w destination) =
      stage.perform (.start w destination stage.animator.defaults.duration) := rfl

theorem AgreeOn.perform (h : AgreeOn v stage stage') {request : StageRequest K}
    (hconcerns : request.concerns v) :
    AgreeOn v (stage.perform request) (stage'.perform request) := by
  cases request with
  | onTree request => exact ⟨h.views.perform request, h.animator⟩
  | start w destination duration =>
    rw [StageRequest.concerns, beq_iff_eq] at hconcerns
    subst hconcerns
    apply h.start
  | startDefault w destination =>
    rw [StageRequest.concerns, beq_iff_eq] at hconcerns
    subst hconcerns
    rw [perform_startDefault, perform_startDefault, h.animator.defaults_eq]
    apply h.start
  | stop w => exact ⟨h.views, h.animator.stop w⟩
  | stopAll => exact ⟨h.views, h.animator.stopAll⟩
  | frame now => apply h.frame
  | setDefaults defaults => exact ⟨h.views, h.animator.motion?_eq, rfl, h.animator.now_eq⟩
  | setTime now =>
    apply h.withClock
    rfl
  | forward step =>
    simp only [Stage.perform, ManualClock.forward, h.animator.now_eq]
    cases (stage.animator.clock.now.after step).isRepresentable with
    | true =>
      apply h.withClock
      rfl
    | false => exact h
  | subscribe =>
    apply h.withClock
    simp only [ManualClock.subscribe, apply_ite ManualClock.now, ite_self, h.animator.now_eq]
  | unsubscribe =>
    apply h.withClock
    exact h.animator.now_eq

theorem AgreeOn.start_other (h : AgreeOn v stage stage') {w : ViewId} (hw : w ≠ v)
    (destination : Rect K) (duration : Duration) :
    AgreeOn v (stage.perform (.start w destination duration)) stage' := by
  unfold Stage.perform begun
  dsimp only
  split
  · exact h
  · next started hstart =>
    obtain ⟨-, departure, -, hstarted⟩ := Animator.start_eq_ok hstart
    obtain ⟨_, -, hmotion⟩ := Animator.start_motion? hstart v
    refine ⟨h.views, ?_, ?_, ?_⟩
    · rw [hmotion, if_neg hw, h.animator.motion?_eq]
    · simp only [hstarted, Animator.wake_defaults, h.animator.defaults_eq]
    · simp only [hstarted, Animator.wake_now, h.animator.now_eq]

theorem AgreeOn.perform_other (h : AgreeOn v stage stage') {request : StageRequest K}
    (hother : request.concerns v = false) : AgreeOn v (stage.perform request) stage' := by
  unfold StageRequest.concerns at hother
  split at hother
  · next w destination duration =>
    apply h.start_other (by simpa using hother)
  · next w destination =>
    rw [perform_startDefault]
    apply h.start_other (by simpa using hother)
  · next w =>
    have hw : w ≠ v := by simpa using hother
    refine ⟨h.views, ?_, ?_, ?_⟩
    · simp only [Stage.perform, Animator.stop_motion?, if_neg hw, h.animator.motion?_eq]
    · simp only [Stage.perform, Animator.stop_defaults, h.animator.defaults_eq]
    · simp only [Stage.perform, Animator.stop_now, h.animator.now_eq]
  · next w bounds =>
    have hw : w ≠ v := by simpa using hother
    exact ⟨⟨h.views.tree.place_other hw bounds, h.views.names_eq⟩, h.animator⟩
  · contradiction

theorem AgreeOn.run (h : AgreeOn v stage stage') (requests : List (StageRequest K)) :
    AgreeOn v (stage.run requests) (stage'.run (requests.filter (·.concerns v))) := by
  induction requests generalizing stage stage' with
  | nil => exact h
  | cons request requests ih =>
    cases hconcerns : request.concerns v with
    | true =>
      rw [List.filter_cons_of_pos hconcerns]
      apply ih (h.perform hconcerns)
    | false =>
      rw [List.filter_cons_of_neg (by simp [hconcerns])]
      apply ih (h.perform_other hconcerns)

theorem AgreeOn.reports_eq (h : AgreeOn v stage stage') (requests : List (StageRequest K)) :
    (stage'.reports (requests.filter (·.concerns v))).map (·.endings v) =
      (stage.reports requests).map (·.endings v) := by
  induction requests generalizing stage stage' with
  | nil => simp [reports]
  | cons request requests ih =>
    cases hconcerns : request.concerns v with
    | true =>
      rw [List.filter_cons_of_pos hconcerns]
      simp only [reports, List.map_append, ih (h.perform hconcerns)]
      cases request with
      | frame now => simp [report?, h.endings_eq now]
      | _ => rfl
    | false =>
      rw [List.filter_cons_of_neg (by simp [hconcerns]), ih (h.perform_other hconcerns)]
      cases request with
      | frame now => contradiction
      | _ => rfl

/--
What happens to a view is the same whether the requests about other views are made or left out.
-/
theorem other_views_do_not_interfere (v : ViewId) (stage : Stage K)
    (requests : List (StageRequest K)) :
    (∀ earlier, earlier <+: requests →
      let before := stage.run earlier
      let without := stage.run (earlier.filter (·.concerns v))
      without.views.tree.contains v = before.views.tree.contains v ∧
        without.views.tree.bounds? v = before.views.tree.bounds? v ∧
        without.animator.motion? v = before.animator.motion? v) ∧
      (stage.reports (requests.filter (·.concerns v))).map (·.endings v) =
        (stage.reports requests).map (·.endings v) := by
  have hself : AgreeOn v stage stage := ⟨⟨.refl v _, rfl⟩, rfl, rfl, rfl⟩
  constructor
  · intro earlier _
    have hagree := hself.run earlier
    exact ⟨hagree.views.tree.contains_eq v, hagree.views.tree.bounds?_eq,
      hagree.animator.motion?_eq⟩
  · apply hself.reports_eq

end Stage

end ViewMotion
