import Mathlib.Data.List.Induction
import Mathlib.Data.List.Infix
import ViewMotion.Proofs.Scene.Sparing

/-!
This module contains the course of a motion that nobody interferes with: it lands on its destination
in the first frame that finds it done, and in no other.
-/

namespace ViewMotion

variable {K T A X : Type} [Scalar K] {v : ViewId} {motion : Motion K}

def SceneRequest.lands (motion : Motion K) : SceneRequest K T A X → Bool
  | .frame now => motion.isDone now
  | _ => false

namespace Scene

variable [Clock T]

structure Undisturbed (v : ViewId) (scene : Scene K T A X)
    (requests : List (SceneRequest K T A X)) : Prop where
  spares : ∀ request ∈ requests, request.spares v
  contains : ∀ earlier, earlier <+: requests → (scene.run earlier).tree.contains v

-- the motion is under way, in whatever phase
def Flying (v : ViewId) (motion : Motion K) (scene : Scene K T A X) : Prop :=
  ∃ phase, scene.animator.motion? v = some { motion with phase }

structure Landed (v : ViewId) (destination : Rect K) (scene : Scene K T A X) : Prop where
  motion?_eq : scene.animator.motion? v = none
  bounds?_eq : scene.tree.bounds? v = some destination

variable {scene : Scene K T A X} {now : Instant}

omit [Scalar K] [Clock T] in
theorem flying_of_motion? (h : scene.animator.motion? v = some motion) : scene.Flying v motion :=
  ⟨motion.phase, h⟩

theorem frame_motion? :
    (scene.frame now).2.animator.motion? v =
      (scene.animator.motion? v).bind (Motion.left? now scene.tree v) :=
  scene.animator.frame_motion? now scene.tree v

theorem frame_bounds? :
    (scene.frame now).2.tree.bounds? v =
      match scene.animator.motion? v with
      | none => scene.tree.bounds? v
      | some motion => (scene.tree.bounds? v).map fun _ => motion.rectAt now :=
  scene.animator.frame_bounds? now scene.tree v

theorem frame_endings :
    (scene.frame now).1.endings v =
      ((scene.animator.motion? v).bind (Motion.ending? now scene.tree v)).toList :=
  scene.animator.frame_endings now scene.tree v

theorem mem_frame_ended_iff {phase : Phase} :
    (v, phase) ∈ (scene.frame now).1.ended ↔ ∃ motion, scene.animator.motion? v = some motion ∧
      motion.ending? now scene.tree v = some phase := by
  have hmem : (v, phase) ∈ (scene.frame now).1.ended ↔ phase ∈ (scene.frame now).1.endings v := by
    simp [FrameReport.endings]
  rw [hmem, frame_endings, Option.mem_toList, Option.bind_eq_some_iff]

theorem isMoving_of_frame (h : (scene.frame now).2.animator.isMoving v) :
    scene.animator.isMoving v := by
  rw [Animator.isMoving_eq_isSome, frame_motion?] at h
  rw [Animator.isMoving_eq_isSome]
  exact Option.isSome_of_isSome_bind h

theorem Flying.frame_notDone (h : scene.Flying v motion) (hv : (scene.tree.bounds? v).isSome)
    (hnot : ¬ motion.isDone now) :
    (scene.frame now).2.Flying v motion ∧ (scene.frame now).1.endings v = [] := by
  rcases h with ⟨phase, hphase⟩
  constructor
  · refine ⟨.running, ?_⟩
    rw [frame_motion?, hphase, Option.bind_some, Motion.left?_eq_some_iff,
      Motion.isDone_with_phase]
    exact ⟨hv, hnot, rfl⟩
  · rw [frame_endings, hphase, Option.bind_some, Motion.ending?_eq, if_pos hv,
      Motion.isDone_with_phase, if_neg hnot]
    rfl

theorem Flying.frame_done (h : scene.Flying v motion) (hv : (scene.tree.bounds? v).isSome)
    (hdone : motion.isDone now) :
    (scene.frame now).2.Landed v motion.destination ∧
      (scene.frame now).1.endings v = [.completed] := by
  rcases h with ⟨phase, hphase⟩
  refine ⟨⟨?_, ?_⟩, ?_⟩
  · rw [frame_motion?, hphase, Option.bind_some, Option.eq_none_iff_forall_ne_some]
    intro left hleft
    rw [Motion.left?_eq_some_iff, Motion.isDone_with_phase] at hleft
    apply hleft.2.1 hdone
  · rw [Option.isSome_iff_exists] at hv
    rcases hv with ⟨bounds, hbounds⟩
    rw [frame_bounds?, hphase, hbounds]
    dsimp only [Option.map_some]
    unfold Motion.rectAt
    rw [Motion.isDone_with_phase, if_pos hdone]
  · rw [frame_endings, hphase, Option.bind_some, Motion.ending?_eq, if_pos hv,
      Motion.isDone_with_phase, if_pos hdone]
    rfl

theorem Landed.frame {destination : Rect K} (h : scene.Landed v destination) (now : Instant) :
    (scene.frame now).2.Landed v destination ∧ (scene.frame now).1.endings v = [] := by
  refine ⟨⟨?_, ?_⟩, ?_⟩
  · rw [frame_motion?, h.motion?_eq]
    rfl
  · rw [frame_bounds?, h.motion?_eq]
    apply h.bounds?_eq
  · rw [frame_endings, h.motion?_eq]
    rfl

omit [Scalar K] [Clock T] in
theorem placed_of_mem (h : scene.named.Sound) (hv : scene.tree.contains v) :
    (scene.tree.bounds? v).isSome := by
  have hformed : scene.tree.WellFormed := h.wellFormed
  rw [hformed.placed_iff_mem]
  exact hv

section Step

variable {request : SceneRequest K T A X} (hsound : scene.named.Sound)
  (hspares : request.spares v) (hv : scene.tree.contains v)
  (hleft : (scene.perform request).tree.contains v)

include hsound hspares hv hleft

theorem Landed.perform {destination : Rect K} (h : scene.Landed v destination) :
    (scene.perform request).Landed v destination := by
  by_cases hframe : ∃ now, request = .frame now
  · rcases hframe with ⟨now, rfl⟩
    exact (h.frame now).1
  · have halike := perform_alikeFor hsound hspares (fun now heq => hframe ⟨now, heq⟩) hv hleft
    exact ⟨halike.motion?_eq.trans h.motion?_eq, halike.bounds?_eq.trans h.bounds?_eq⟩

theorem Flying.perform (h : scene.Flying v motion) :
    if request.lands motion then (scene.perform request).Landed v motion.destination
    else (scene.perform request).Flying v motion := by
  have hplaced := placed_of_mem hsound hv
  by_cases hframe : ∃ now, request = .frame now
  · rcases hframe with ⟨now, rfl⟩
    split
    · next hlands => exact (h.frame_done hplaced hlands).1
    · next hlands => exact (h.frame_notDone hplaced hlands).1
  · have hlands : request.lands motion = false := by
      cases request with
      | frame now => exact absurd ⟨now, rfl⟩ hframe
      | _ => rfl
    have halike := perform_alikeFor hsound hspares (fun now heq => hframe ⟨now, heq⟩) hv hleft
    rcases h with ⟨phase, hphase⟩
    rw [hlands]
    exact ⟨phase, halike.motion?_eq.trans hphase⟩

end Step

theorem Undisturbed.of_append {requests later : List (SceneRequest K T A X)}
    (h : scene.Undisturbed v (requests ++ later)) : scene.Undisturbed v requests where
  spares request hrequest := h.spares request (List.mem_append_left later hrequest)
  contains earlier hearlier := h.contains earlier (hearlier.trans (List.prefix_append _ _))

theorem Flying.run (h : scene.Flying v motion) (hsound : scene.named.Sound)
    {requests : List (SceneRequest K T A X)} (hrun : scene.Undisturbed v requests) :
    if requests.any (·.lands motion) then (scene.run requests).Landed v motion.destination
    else (scene.run requests).Flying v motion := by
  induction requests using List.reverseRecOn with
  | nil => exact h
  | append_singleton requests request ih =>
    have hreached := ih hrun.of_append
    have hnow := run_sound hsound requests
    have hspares := hrun.spares request (by simp)
    have hv := hrun.contains requests (List.prefix_append _ _)
    have hleft := hrun.contains (requests ++ [request]) (List.prefix_refl _)
    rw [run_append] at hleft ⊢
    rw [List.any_append]
    split at hreached
    · next hlanded =>
      rw [hlanded]
      apply Landed.perform hnow hspares hv hleft hreached
    · next hlanded =>
      have hstep := Flying.perform hnow hspares hv hleft hreached
      rw [Bool.not_eq_true] at hlanded
      rw [hlanded, Bool.false_or, List.any_cons, List.any_nil, Bool.or_false]
      exact hstep

theorem start_ok {begun : Scene K T A X} {destination : Rect K} {duration : Duration}
    (h : start v destination duration scene = .ok () begun) :
    ∃ animator, scene.animator.start scene.tree v destination duration = .ok animator ∧
      begun = { scene with animator } := by
  unfold start at h
  split at h
  · contradiction
  · next animator hstart =>
    injection h with _ h
    exact ⟨animator, hstart, h.symm⟩

end Scene

end ViewMotion
