import ViewMotion.EventLoop
import ViewMotion.Gallery.Reaction
import ViewMotion.Proofs.Scene.Clearing
import ViewMotion.Proofs.Scene.Landing
import ViewMotion.Proofs.Scene.Reentrancy

/-!
This module contains what happens if an event is handed to a handler of the gallery: the action of
the handler is carried out, as far as it goes.
-/

namespace ViewMotion

section Codes

variable {K T A X : Type}

def HandlerTable.code? (table : HandlerTable A) (v : ViewId) (kind : EventKind) : Option A :=
  (table.find? v kind).map Handler.code

namespace Scene

variable {scene after : Scene K T A X}

theorem register_code? (v : ViewId) (kind : EventKind) (code : A) (scene : Scene K T A X)
    (w : ViewId) (kind' : EventKind) :
    (scene.register v kind code).handlers.code? w kind' =
      if v = w ∧ kind = kind' then some code else scene.handlers.code? w kind' := by
  unfold register HandlerTable.code?
  rw [HandlerTable.insert_find?]
  split <;> rfl

theorem Without.code?_eq {gone : List ViewId} (h : Without gone scene after) (v : ViewId)
    (kind : EventKind) :
    after.handlers.code? v kind = if v ∈ gone then none else scene.handlers.code? v kind := by
  unfold HandlerTable.code?
  rw [h.find?_eq]
  split <;> rfl

theorem Tidy.code?_eq_none (h : scene.Tidy) {v : ViewId} (hv : ¬ scene.names.Issued v)
    (kind : EventKind) : scene.handlers.code? v kind = none := by
  unfold HandlerTable.code?
  rw [h.find?_eq_none hv]
  rfl

end Scene

end Codes

namespace EventLoop

variable {K T A X : Type} {interpreter : Interpreter A (Scene K T A X)}

theorem foldl_dispatch_of_keeps {loop : EventLoop K T A X} {events : List Event}
    (h : ∀ event ∈ events, loop.dispatch interpreter event = loop) :
    events.foldl (dispatch interpreter) loop = loop := by
  induction events with
  | nil => rfl
  | cons event events ih =>
    rw [List.foldl_cons, h event List.mem_cons_self]
    exact ih fun e he => h e (List.mem_cons_of_mem event he)

theorem frame_snd [Scalar K] [Clock T] (loop : EventLoop K T A X) (now : Instant) :
    (loop.frame interpreter now).2 =
      ((loop.scene.frame now).1.ended.map fun entry => Event.motionEnded entry.1 entry.2).foldl
        (dispatch interpreter) { loop with scene := (loop.scene.frame now).2 } := rfl

end EventLoop

variable {K T C X ε α : Type} [Scalar K] [Clock T]

omit [Scalar K] [Clock T] in
theorem Reaction.exec_quietly {action : GalleryM ε K T C X α}
    (call : Handler (Reaction K C) → Event → Turn (GalleryScene K T C X) →
      Bool × Turn (GalleryScene K T C X)) (turn : Turn (GalleryScene K T C X)) :
    ((program.quietly action).exec call turn).2 =
      { turn with state := Scene.settle action turn.state } := by
  change (((Program.attempt action).bind fun _ => .pure ()).exec call turn).2 = _
  rw [Program.exec_bind]
  unfold Program.attempt Program.step Scene.settle
  simp only [Program.exec]
  cases action turn.state <;> rfl

namespace Gallery

variable {client : C → Event → Program (Reaction K C) (GalleryScene K T C X) Unit} {depth : Nat}
  {loop : EventLoop K T (Reaction K C) (Gallery X)} {event : Event}

theorem dispatch_of_none (h : loop.scene.handlers.code? event.source event.kind = none) :
    loop.dispatch (interpreter client depth) event = loop := by
  unfold HandlerTable.code? at h
  rw [Option.map_eq_none_iff] at h
  unfold EventLoop.dispatch
  rw [Scene.run_dispatch_of_none h]

theorem dispatch_of_some (hdepth : 0 < depth) {reaction : Reaction K C}
    (h : loop.scene.handlers.code? event.source event.kind = some reaction)
    {action : GalleryM ε K T C X α}
    (haction : Reaction.program client reaction event = Reaction.program.quietly action) :
    loop.dispatch (interpreter client depth) event =
      { loop with scene := Scene.settle action loop.scene } := by
  unfold HandlerTable.code? at h
  rw [Option.map_eq_some_iff] at h
  rcases h with ⟨handler, hfind, hcode⟩
  have hcall : ((interpreter client depth).call handler event ⟨loop.scene, []⟩).2.state =
      Scene.settle action loop.scene := by
    unfold Interpreter.call
    change ((interpreter client depth).callWithin depth handler event ⟨loop.scene, []⟩).2.state = _
    rw [← Nat.sub_add_cancel hdepth, Interpreter.callWithin_succ List.not_mem_nil]
    change (((Reaction.program client handler.code event).exec _ _).2.leave _).state = _
    rw [hcode, haction, Reaction.exec_quietly]
    rfl
  unfold EventLoop.dispatch
  rw [Scene.run_dispatch_of_some hfind]
  dsimp only
  rw [hcall]

theorem frame_of_unheard {now : Instant}
    (h : ∀ v, loop.scene.animator.isMoving v → loop.scene.handlers.code? v .motionEnded = none) :
    (loop.frame (interpreter client depth) now).2 =
      { loop with scene := (loop.scene.frame now).2 } := by
  rw [EventLoop.frame_snd]
  apply EventLoop.foldl_dispatch_of_keeps
  intro event hevent
  rcases List.mem_map.mp hevent with ⟨⟨v, phase⟩, hended, rfl⟩
  rcases Scene.mem_frame_ended_iff.mp hended with ⟨motion, hmotion, -⟩
  exact dispatch_of_none (h v (Animator.isMoving_of_motion? hmotion))

end Gallery

end ViewMotion
