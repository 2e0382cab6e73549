import ViewMotion.EventLoop
import ViewMotion.Proofs.Motion.Accounts
import ViewMotion.Proofs.Motion.Sound
import ViewMotion.Proofs.Scene.History
import ViewMotion.Proofs.Scene.Reentrancy

/-!
This module contains what an event loop makes of the frames of its animator: it tells of each motion
that is over once, and it makes no frame as long as nothing moves.
-/

namespace ViewMotion

variable {K T A X : Type} {interpreter : Interpreter A (Scene K T A X)}

/--
The events are handed over one after another, each of them to the handler that the table has for it
by then. That handler is called while no other one is active.
-/
inductive Delivers (interpreter : Interpreter A (Scene K T A X)) :
    Scene K T A X → List Event → Scene K T A X → Prop where
  | done {scene : Scene K T A X} : Delivers interpreter scene [] scene
  | unheard {scene last : Scene K T A X} {event : Event} {events : List Event}
    (hnone : scene.handlers.find? event.source event.kind = none)
    (h : Delivers interpreter scene events last) :
    Delivers interpreter scene (event :: events) last
  | heard {scene next last : Scene K T A X} {event : Event} {events : List Event}
    {handler : Handler A} (hfind : scene.handlers.find? event.source event.kind = some handler)
    (hcall : interpreter.call handler event ⟨scene, []⟩ = (true, ⟨next, []⟩))
    (h : Delivers interpreter next events last) : Delivers interpreter scene (event :: events) last

theorem Interpreter.call_idle {σ : Type} {interpreter : Interpreter A σ}
    (hdepth : 0 < interpreter.depth) (handler : Handler A) (event : Event) (state : σ) :
    ∃ next, interpreter.call handler event ⟨state, []⟩ = (true, ⟨next, []⟩) := by
  have hnobody : interpreter.Keeps (fun _ => True) [] := fun _ h => absurd h List.not_mem_nil
  have hactive := (callWithin_keeps hnobody interpreter.depth).active handler event ⟨state, []⟩
  have hran : (interpreter.call handler event ⟨state, []⟩).1 = true := by
    unfold call
    rw [← Nat.sub_add_cancel hdepth, callWithin_succ List.not_mem_nil]
  refine ⟨(interpreter.call handler event ⟨state, []⟩).2.state, Prod.ext hran ?_⟩
  exact congrArg (Turn.mk _) hactive

namespace EventLoop

theorem foldl_dispatch_delivers (hdepth : 0 < interpreter.depth) (events : List Event)
    (loop : EventLoop K T A X) :
    let last := events.foldl (dispatch interpreter) loop
    Delivers interpreter loop.scene events last.scene ∧ last.hasQuit = loop.hasQuit := by
  induction events generalizing loop with
  | nil => exact ⟨.done, rfl⟩
  | cons event events ih =>
    have hrest := ih (loop.dispatch interpreter event)
    rw [List.foldl_cons]
    refine ⟨?_, hrest.2⟩
    have hscene : (loop.dispatch interpreter event).scene =
        (interpreter.run (Scene.dispatch event) loop.scene).2 := rfl
    rw [hscene] at hrest
    cases hfind : loop.scene.handlers.find? event.source event.kind with
    | none =>
      rw [Scene.run_dispatch_of_none hfind] at hrest
      exact .unheard hfind hrest.1
    | some handler =>
      rcases interpreter.call_idle hdepth handler event loop.scene with ⟨next, hcall⟩
      rw [Scene.run_dispatch_of_some hfind, hcall] at hrest
      exact .heard hfind hcall hrest.1

theorem motions_meet_one_fate :
    (∀ {K T : Type} [Scalar K] [Clock T] (clock : T) (defaults : MotionDefaults)
      (requests : List (AnimatorRequest K T)),
        (Animator.idle clock defaults).Accounted requests) ∧
      ∀ {K T A X : Type} [Scalar K] [Clock T] {interpreter : Interpreter A (Scene K T A X)},
        0 < interpreter.depth → ∀ (loop : EventLoop K T A X) (now : Instant),
          let report := (loop.frame interpreter now).1
          let last := (loop.frame interpreter now).2
          report = (loop.scene.animator.frame now loop.scene.tree).1 ∧
            report.ended.Pairwise (fun a b => compare a.1 b.1 = .lt) ∧
            Delivers interpreter (loop.scene.frame now).2
              (report.ended.map fun entry => .motionEnded entry.1 entry.2) last.scene ∧
            last.hasQuit = loop.hasQuit := by
  constructor
  · exact fun clock defaults requests => Animator.idle_accounted clock defaults requests
  · intro K T A X _ _ interpreter hdepth loop now
    refine ⟨rfl, loop.scene.animator.frame_ended_ordered now loop.scene.tree, ?_⟩
    exact foldl_dispatch_delivers hdepth _ { loop with scene := (loop.scene.frame now).2 }

theorem motions_meet_one_fate_together :
    let interpreter : Interpreter Unit (Scene Rat ManualClock Unit (List (Option Phase))) := {
      program _ event := Program.step fun scene => ((), {
        scene with
        animator := scene.animator.stopAll
        store := scene.store ++ [event.phase]
      })
      depth := 1
    }
    let scene : Scene Rat ManualClock Unit (List (Option Phase)) :=
      ((Scene.new .counted .atEpoch {} []).run [
        .onTree (.insert ⟨0⟩ .container),
        .start ⟨1⟩ (.ofXYWH 1 2 3 4) ⟨5⟩,
        .start ⟨0⟩ (.ofXYWH 1 2 3 4) ⟨3⟩
      ]).registerEach [⟨0⟩, ⟨1⟩] .motionEnded ()
    let loop : EventLoop Rat ManualClock Unit (List (Option Phase)) := ⟨scene, false⟩
    (loop.frame interpreter ⟨6⟩).1.ended = [(⟨0⟩, .completed), (⟨1⟩, .completed)] ∧
      Delivers interpreter (scene.frame ⟨6⟩).2
        [.motionEnded ⟨0⟩ .completed, .motionEnded ⟨1⟩ .completed]
        (loop.frame interpreter ⟨6⟩).2.scene ∧
      (loop.frame interpreter ⟨6⟩).2.scene.store = [some .completed, some .completed] := by
  intro interpreter scene loop
  have hended : (loop.frame interpreter ⟨6⟩).1.ended = [(⟨0⟩, .completed), (⟨1⟩, .completed)] := by
    decide +kernel
  have hdepth : 0 < interpreter.depth := Nat.one_pos
  have hfate := motions_meet_one_fate.2 hdepth loop ⟨6⟩
  dsimp only at hfate
  rw [hended] at hfate
  refine ⟨hended, hfate.2.2.1, ?_⟩
  decide +kernel

section Idle

variable [Scalar K]

theorem frameIfDue?_idle {interpreter : Interpreter A (Scene K IntervalClock A X)}
    {loop : EventLoop K IntervalClock A X} (h : loop.scene.animator.InStep) (hidle : ¬ loop.isBusy)
    (limit : Nat) : loop.frameIfDue? interpreter limit = some (none, loop) := by
  have hticker : loop.scene.animator.clock.ticker = none := by
    rw [← Option.not_isSome_iff_eq_none]
    change ¬ Clock.isSubscribed loop.scene.animator.clock
    rw [h]
    exact hidle
  unfold frameIfDue? IntervalClock.takeFrame?
  rw [hticker]
  rfl

end Idle

theorem subscribed_while_busy :
    (∀ {K T : Type} [Scalar K] [Clock T] [LawfulClock T] {clock : T},
      Clock.isSubscribed clock = false → ∀ (defaults : MotionDefaults)
        {requests : List (AnimatorRequest K T)},
        (∀ request ∈ requests, request.LeavesSubscription) →
          let animator := (Animator.idle clock defaults).run requests
          Clock.isSubscribed animator.clock = animator.isBusy ∧
            ∀ v motion, animator.motion? v = some motion → motion.UnderWay v) ∧
      (∀ {K : Type} [Scalar K] {clock : ManualClock}, clock.subscribed = false →
        ∀ (defaults : MotionDefaults) {requests : List (AnimatorRequest K ManualClock)},
          (∀ request ∈ requests, request.LeavesSubscriptions) →
            ((Animator.idle clock defaults).run requests).clock.subscriptions =
              clock.subscriptions + (Animator.idle clock defaults).awakenings requests) ∧
      ∀ {K A X : Type} [Scalar K] {clock : IntervalClock}, clock.isSubscribed = false →
        ∀ (defaults : MotionDefaults) {requests : List (AnimatorRequest K IntervalClock)},
          (∀ request ∈ requests, request.LeavesSubscription) →
            ∀ (interpreter : Interpreter A (Scene K IntervalClock A X))
              (loop : EventLoop K IntervalClock A X),
              loop.scene.animator = (Animator.idle clock defaults).run requests →
                ¬ loop.isBusy → ∀ limit,
                  loop.frameIfDue? interpreter limit = some (none, loop) := by
  refine ⟨?_, ?_, ?_⟩
  · intro K T _ _ _ clock hclock defaults requests hrequests
    have hsound := Animator.run_sound (Animator.idle_sound hclock defaults) hrequests
    exact ⟨hsound.inStep, fun v motion => hsound.underWay⟩
  · intro K _ clock hclock defaults requests hrequests
    exact Animator.run_subscriptions (Animator.idle_sound hclock defaults) hrequests
  · intro K A X _ clock hclock defaults requests hrequests interpreter loop hloop
    apply frameIfDue?_idle
    rw [hloop]
    exact (Animator.run_sound (Animator.idle_sound hclock defaults) hrequests).inStep

theorem subscribed_while_busy_again :
    let tree : ViewTree Rat := .ofRoot ⟨0⟩
    let destination : Rect Rat := .ofXYWH 1 2 3 4
    let requests : List (AnimatorRequest Rat ManualClock) := [
      .start tree ⟨0⟩ destination ⟨5⟩,
      .forward ⟨6⟩,
      .frame tree ⟨6⟩,
      .setTime ⟨2⟩,
      .start tree ⟨0⟩ destination ⟨5⟩
    ]
    let animator := (Animator.idle ManualClock.atEpoch {}).run requests
    let stopping : List (AnimatorRequest Rat IntervalClock) := [
      .start tree ⟨0⟩ destination ⟨5⟩,
      .elapse (.ofMilliseconds 20),
      .takeFrame 2,
      .stop ⟨0⟩
    ]
    let interval := IntervalClock.every IntervalClock.standardInterval
    let stopped := (Animator.idle interval {}).run stopping
    let interpreter : Interpreter Unit (Scene Rat IntervalClock Unit Unit) :=
      ⟨fun _ _ => .pure (), 1⟩
    let scene : Scene Rat IntervalClock Unit Unit := .new .counted interval {} ()
    let loop : EventLoop Rat IntervalClock Unit Unit := ⟨{ scene with animator := stopped }, false⟩
    animator.clock.subscribed = animator.isBusy ∧ animator.clock.subscriptions = 2 ∧
      loop.frameIfDue? interpreter 2 = some (none, loop) := by
  intro tree destination requests animator stopping interval stopped interpreter scene loop
  have hrequests : ∀ request ∈ requests, request.LeavesSubscriptions := by
    simp only [requests, List.forall_mem_cons]
    exact ⟨trivial, AnimatorRequest.forward_leavesSubscriptions ⟨6⟩, trivial,
      AnimatorRequest.setTime_leavesSubscriptions ⟨2⟩, trivial,
      fun _ h => absurd h List.not_mem_nil⟩
  have hstopping : ∀ request ∈ stopping, request.LeavesSubscription := by
    simp only [stopping, List.forall_mem_cons]
    exact ⟨trivial, AnimatorRequest.elapse_leavesSubscription _,
      AnimatorRequest.takeFrame_leavesSubscription 2, trivial,
      fun _ h => absurd h List.not_mem_nil⟩
  have hclock : ManualClock.atEpoch.subscribed = false := rfl
  have hinterval : interval.isSubscribed = false := rfl
  have hawake : (Animator.idle ManualClock.atEpoch {}).awakenings requests = 2 := by
    decide +kernel
  have hidle : ¬ loop.isBusy := by decide +kernel
  have hcount := subscribed_while_busy.2.1 hclock {} hrequests
  rw [hawake] at hcount
  have hleaves : ∀ request ∈ requests, request.LeavesSubscription :=
    fun request h => (hrequests request h).leavesSubscription
  exact ⟨(subscribed_while_busy.1 hclock {} hleaves).1, hcount,
    subscribed_while_busy.2.2 hinterval {} hstopping interpreter loop rfl hidle 2⟩

end EventLoop

end ViewMotion
