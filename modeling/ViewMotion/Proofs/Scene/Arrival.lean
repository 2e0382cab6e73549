import ViewMotion.Clock.Manual
import ViewMotion.Proofs.Motion.Punctuality
import ViewMotion.Proofs.Scene.Landing

/-!
This module contains when a motion that nobody interferes with lands: at the latest in the first
frame after its time is up, in spite of all rounding.
-/

namespace ViewMotion.Scene

variable {T A X : Type} [Clock T] {v : ViewId}

theorem start_lands_once {scene : Scene Float T A X} (hreachable : scene.Reachable)
    {begun : Scene Float T A X} {destination : Rect Float} {duration : Duration}
    (hstart : start v destination duration scene = .ok () begun)
    {requests : List (SceneRequest Float T A X)} (hrun : begun.Undisturbed v requests) :
    ∃ motion : Motion Float,
      begun.animator.motion? v = some motion ∧ motion.destination = destination ∧
      motion.began = Clock.now scene.animator.clock ∧ motion.duration = duration ∧
      (∀ now, duration.isZero ∨ duration.isRepresentable ∧
          (now.since motion.began).isRepresentable ∧
          (Clock.now scene.animator.clock).after duration ≤ now →
        motion.isDone now) ∧
      ∀ earlier later, requests = earlier ++ later →
        let reached := begun.run earlier
        (if earlier.any (·.lands motion) then
            reached.animator.isMoving v = false ∧ reached.tree.bounds? v = some destination
          else reached.animator.destination? v = some destination) ∧
        ∀ now rest, later = .frame now :: rest →
          let (report, after) := reached.frame now
          if earlier.any (·.lands motion) then
            report.endings v = [] ∧ after.tree.bounds? v = reached.tree.bounds? v
          else if motion.isDone now then
            report.endings v = [.completed] ∧ after.tree.bounds? v = some destination
          else report.endings v = [] := by
  rcases start_ok hstart with ⟨animator, hanimator, rfl⟩
  rcases Animator.start_motion? hanimator v with ⟨departure, -, hmotion⟩
  rw [if_pos rfl] at hmotion
  have hsound : ({ scene with animator } : Scene Float T A X).named.Sound := hreachable.sound
  refine ⟨_, hmotion, rfl, rfl, rfl, ?_, ?_⟩
  · rintro now (hzero | ⟨hduration, helapsed, hlate⟩)
    · exact Motion.isDone_of_isZero _ hzero
    · apply Motion.isDone_of_due _ hduration helapsed
      rw [Instant.le_def] at hlate
      dsimp only [Instant.after, Instant.since] at hlate ⊢
      omega
  · intro earlier later heq reached
    subst heq
    have hreached := Flying.run (flying_of_motion? hmotion) hsound hrun.of_append
    have hplaced : (reached.tree.bounds? v).isSome :=
      placed_of_mem (run_sound hsound earlier) (hrun.contains earlier (List.prefix_append _ _))
    split at hreached
    · next hlanded =>
      rw [if_pos hlanded]
      constructor
      · refine ⟨?_, hreached.bounds?_eq⟩
        rw [Animator.isMoving_eq_isSome]
        apply congrArg Option.isSome hreached.motion?_eq
      · intro now rest _
        dsimp only
        rw [if_pos hlanded]
        have hframe := hreached.frame now
        exact ⟨hframe.2, hframe.1.bounds?_eq.trans hreached.bounds?_eq.symm⟩
    · next hflying =>
      rw [if_neg hflying]
      constructor
      · rcases hreached with ⟨phase, hphase⟩
        unfold Animator.destination?
        apply congrArg (Option.map Motion.destination) hphase
      · intro now rest _
        dsimp only
        rw [if_neg hflying]
        split
        · next hlands =>
          have hframe := hreached.frame_done hplaced hlands
          exact ⟨hframe.2, hframe.1.bounds?_eq⟩
        · next hlands => exact (hreached.frame_notDone hplaced hlands).2

theorem start_lands_once_after_deadline :
    let scene : Scene Float ManualClock Unit Unit :=
      (new .counted .atEpoch {} ()).run [.onTree (.insert ⟨0⟩ .container)]
    let destination : Rect Float := .ofXYWH 1 2 3 4
    ∃ begun, start ⟨1⟩ destination ⟨5⟩ scene = .ok () begun ∧
      (begun.run [.frame ⟨2⟩]).animator.destination? ⟨1⟩ = some destination ∧
      ((begun.run [.frame ⟨2⟩]).frame ⟨6⟩).1.endings ⟨1⟩ = [.completed] ∧
      ((begun.run [.frame ⟨2⟩]).frame ⟨6⟩).2.tree.bounds? ⟨1⟩ = some destination ∧
      ((begun.run [.frame ⟨2⟩, .frame ⟨6⟩]).frame ⟨4⟩).1.endings ⟨1⟩ = [] := by
  intro scene destination
  have hreachable : scene.Reachable := ⟨.counted, .atEpoch, {}, (), _, rfl⟩
  let requests : List (SceneRequest Float ManualClock Unit Unit) :=
    [.frame ⟨2⟩, .frame ⟨6⟩, .frame ⟨4⟩]
  let begun := scene.perform (.start ⟨1⟩ destination ⟨5⟩)
  have hstart : start ⟨1⟩ destination ⟨5⟩ scene = .ok () begun :=
    eq_ok_of_run' (by decide +kernel)
  have hrun : begun.Undisturbed ⟨1⟩ requests := by
    constructor
    · decide
    · intro earlier hearlier
      rw [← List.mem_inits] at hearlier
      revert earlier
      decide +kernel
  obtain ⟨motion, -, hto, hbegan, hduration, hlate, hcourse⟩ :=
    start_lands_once hreachable hstart hrun
  have hearly : motion.isDone ⟨2⟩ = false := by
    unfold Motion.isDone Motion.progress
    rw [hbegan, hduration]
    decide +kernel
  have hdone : motion.isDone ⟨6⟩ := by
    apply hlate
    rw [hbegan]
    decide
  have hfirst := hcourse [.frame ⟨2⟩] [.frame ⟨6⟩, .frame ⟨4⟩] rfl
  have hsecond := hcourse [.frame ⟨2⟩, .frame ⟨6⟩] [.frame ⟨4⟩] rfl
  simp only [List.any_cons, List.any_nil, SceneRequest.lands, hearly, hdone] at hfirst hsecond
  have hend := hfirst.2 ⟨6⟩ _ rfl
  have hlast := hsecond.2 ⟨4⟩ _ rfl
  simp only [hdone] at hend hlast
  exact ⟨begun, hstart, hfirst.1, hend.1, hend.2, hlast.1⟩

end ViewMotion.Scene
