import ViewMotion.Scene

/-!
This module contains handlers that send no messages themselves. What they do does not depend on the
queue of the scene, and they leave it as it is.
-/

namespace ViewMotion

variable {K T A X α : Type}

namespace Scene

def withQueue (queue : List Message) (scene : Scene K T A X) : Scene K T A X :=
  { scene with queue }

end Scene

namespace Program

/--
Both programs do the same, one of them on scenes with `queue` and the other one on scenes with
`queue'`.
-/
def Alike (queue queue' : List Message) :
    Program A (Scene K T A X) α → Program A (Scene K T A X) α → Prop
  | .pure result, .pure result' => result = result'
  | .get next, .get next' =>
    ∀ scene : Scene K T A X,
      (next (scene.withQueue queue)).Alike queue queue' (next' (scene.withQueue queue'))
  | .set scene next, .set scene' next' =>
    scene.queue = queue ∧ scene' = scene.withQueue queue' ∧ next.Alike queue queue' next'
  | .call handler event next, .call handler' event' next' =>
    handler = handler' ∧ event = event' ∧ ∀ ran, (next ran).Alike queue queue' (next' ran)
  | _, _ => False

def LeavesQueue (program : Program A (Scene K T A X) α) : Prop :=
  ∀ queue queue', program.Alike queue queue' program

end Program

def Interpreter.SendsNothing (interpreter : Interpreter A (Scene K T A X)) : Prop :=
  ∀ code event, (interpreter.program code event).LeavesQueue

namespace Turn

structure Alike (queue queue' : List Message) (turn turn' : Turn (Scene K T A X)) : Prop where
  queue_eq : turn.state.queue = queue
  state_eq : turn'.state = turn.state.withQueue queue'
  active_eq : turn'.active = turn.active

variable {queue queue' : List Message} {turn turn' : Turn (Scene K T A X)}

theorem alike_withQueue (scene : Scene K T A X) (active : List HandlerId) :
    Alike queue queue' ⟨scene.withQueue queue, active⟩ ⟨scene.withQueue queue', active⟩ :=
  ⟨rfl, rfl, rfl⟩

theorem Alike.enter (h : turn.Alike queue queue' turn') (id : HandlerId) :
    (turn.enter id).Alike queue queue' (turn'.enter id) :=
  ⟨h.queue_eq, h.state_eq, congrArg (id :: ·) h.active_eq⟩

theorem Alike.leave (h : turn.Alike queue queue' turn') (id : HandlerId) :
    (turn.leave id).Alike queue queue' (turn'.leave id) :=
  ⟨h.queue_eq, h.state_eq, congrArg (·.erase id) h.active_eq⟩

end Turn

/--
The calls have the same answer on turns that differ in the queue only, and they leave the queue as
it is.
-/
def CallsAlike (queue queue' : List Message)
    (call : Handler A → Event → Turn (Scene K T A X) → Bool × Turn (Scene K T A X)) : Prop :=
  ∀ handler event {turn turn'}, turn.Alike queue queue' turn' →
    (call handler event turn').1 = (call handler event turn).1 ∧
      (call handler event turn).2.Alike queue queue' (call handler event turn').2

namespace Program

variable {queue queue' : List Message}

theorem Alike.bind {β : Type} {program program' : Program A (Scene K T A X) α}
    {f f' : α → Program A (Scene K T A X) β} (h : program.Alike queue queue' program')
    (hf : ∀ result, (f result).Alike queue queue' (f' result)) :
    (program.bind f).Alike queue queue' (program'.bind f') := by
  induction program generalizing program' with
  | pure result =>
    cases program' with
    | pure result' =>
      obtain rfl : result = result' := h
      exact hf result
    | _ => exact h.elim
  | get next ih =>
    cases program' with
    | get next' => exact fun scene => ih _ (h scene)
    | _ => exact h.elim
  | set scene next ih =>
    cases program' with
    | set scene' next' => exact ⟨h.1, h.2.1, ih h.2.2⟩
    | _ => exact h.elim
  | call handler event next ih =>
    cases program' with
    | call handler' event' next' => exact ⟨h.1, h.2.1, fun ran => ih ran (h.2.2 ran)⟩
    | _ => exact h.elim

theorem LeavesQueue.bind {β : Type} {program : Program A (Scene K T A X) α}
    {f : α → Program A (Scene K T A X) β} (h : program.LeavesQueue)
    (hf : ∀ result, (f result).LeavesQueue) : (program.bind f).LeavesQueue :=
  fun queue queue' => (h queue queue').bind fun result => hf result queue queue'

theorem leavesQueue_step {f : Scene K T A X → α × Scene K T A X}
    (hf : ∀ scene queue, f (scene.withQueue queue) =
      ((f scene).1, (f scene).2.withQueue queue)) :
    (step f : Program A (Scene K T A X) α).LeavesQueue := by
  intro queue queue' scene
  dsimp only
  rw [hf, hf scene queue']
  exact ⟨rfl, rfl, rfl⟩

theorem dispatch_leavesQueue (event : Event) :
    (Scene.dispatch event : Program A (Scene K T A X) Bool).LeavesQueue := by
  intro queue queue'
  unfold Scene.dispatch Alike
  intro scene
  dsimp only [Scene.withQueue]
  cases scene.handlers.find? event.source event.kind with
  | none => rfl
  | some handler => exact ⟨rfl, rfl, fun _ => rfl⟩

theorem Alike.exec_eq {program program' : Program A (Scene K T A X) α}
    {call : Handler A → Event → Turn (Scene K T A X) → Bool × Turn (Scene K T A X)}
    (h : program.Alike queue queue' program') (hcall : CallsAlike queue queue' call)
    {turn turn' : Turn (Scene K T A X)} (hturn : turn.Alike queue queue' turn') :
    (program'.exec call turn').1 = (program.exec call turn).1 ∧
      (program.exec call turn).2.Alike queue queue' (program'.exec call turn').2 := by
  induction program generalizing program' turn turn' with
  | pure result =>
    cases program' with
    | pure result' =>
      obtain rfl : result = result' := h
      exact ⟨rfl, hturn⟩
    | _ => exact h.elim
  | get next ih =>
    cases program' with
    | get next' =>
      rcases hturn with ⟨rfl, hstate, hactive⟩
      have hnext := h turn.state
      rw [← hstate] at hnext
      exact ih turn.state hnext ⟨rfl, hstate, hactive⟩
    | _ => exact h.elim
  | set scene next ih =>
    cases program' with
    | set scene' next' => exact ih h.2.2 ⟨h.1, h.2.1, hturn.active_eq⟩
    | _ => exact h.elim
  | call handler event next ih =>
    cases program' with
    | call handler' event' next' =>
      rcases h with ⟨rfl, rfl, hnext⟩
      have hran := hcall handler event hturn
      unfold exec
      dsimp only
      rw [hran.1]
      exact ih _ (hnext _) hran.2
    | _ => exact h.elim

end Program

namespace Scene

variable {ε : Type}

def withQueueOf (queue : List Message) :
    EStateM.Result ε (Scene K T A X) α → EStateM.Result ε (Scene K T A X) α
  | .ok result scene => .ok result (scene.withQueue queue)
  | .error e scene => .error e (scene.withQueue queue)

/--
The action does not depend on the queue, and leaves it as it is.
-/
def Silent (action : EStateM ε (Scene K T A X) α) : Prop :=
  ∀ scene queue, action (scene.withQueue queue) = withQueueOf queue (action scene)

theorem silent_pure (result : α) : Silent (pure result : EStateM ε (Scene K T A X) α) :=
  fun _ _ => rfl

theorem Silent.bind {β : Type} {action : EStateM ε (Scene K T A X) α}
    {next : α → EStateM ε (Scene K T A X) β} (h : Silent action)
    (hnext : ∀ result, Silent (next result)) : Silent (action >>= next) := by
  intro scene queue
  change EStateM.bind action next (scene.withQueue queue) =
    withQueueOf queue (EStateM.bind action next scene)
  unfold EStateM.bind
  rw [h]
  cases action scene with
  | ok result after => apply hnext
  | error e after => rfl

theorem silent_get_bind {next : Scene K T A X → EStateM ε (Scene K T A X) α}
    (hnext : ∀ scene, Silent (next scene))
    (hqueue : ∀ scene queue, next (scene.withQueue queue) = next scene) :
    Silent (get >>= next) := by
  intro scene queue
  change next (scene.withQueue queue) (scene.withQueue queue) = withQueueOf queue (next scene scene)
  rw [hqueue, hnext]

theorem silent_modifyGet {f : Scene K T A X → α × Scene K T A X}
    (h : ∀ scene queue, f (scene.withQueue queue) =
      ((f scene).1, (f scene).2.withQueue queue)) :
    Silent (modifyGet f : EStateM ε (Scene K T A X) α) := by
  intro scene queue
  change (match f (scene.withQueue queue) with | (result, after) => EStateM.Result.ok result after) =
    withQueueOf queue (match f scene with | (result, after) => EStateM.Result.ok result after)
  rw [h]
  rfl

theorem silent_modify {f : Scene K T A X → Scene K T A X}
    (h : ∀ scene queue, f (scene.withQueue queue) = (f scene).withQueue queue) :
    Silent (modify f : EStateM ε (Scene K T A X) Unit) :=
  silent_modifyGet fun scene queue => congrArg (Prod.mk ()) (h scene queue)

theorem silent_onTree (action : EStateM ε (ViewTree K) α) :
    Silent (onTree action : EStateM ε (Scene K T A X) α) := by
  intro scene queue
  unfold onTree
  dsimp only [withQueue]
  cases action scene.tree <;> rfl

theorem Silent.adaptExcept {ε' : Type} {action : EStateM ε (Scene K T A X) α} (f : ε → ε')
    (h : Silent action) : Silent (EStateM.adaptExcept f action) := by
  intro scene queue
  unfold EStateM.adaptExcept
  rw [h]
  cases action scene <;> rfl

section Operations

variable [Scalar K]

theorem silent_add (parent : ViewId) (kind : ViewKind K) :
    Silent (add parent kind : EStateM ViewError (Scene K T A X) ViewId) := by
  intro scene queue
  unfold add
  dsimp only [withQueue]
  cases scene.tree.insert parent kind scene.names.take.1 <;> rfl

omit [Scalar K] in
theorem silent_setGroup (v : ViewId) (group : Nat) :
    Silent (setGroup v group : EStateM ViewError (Scene K T A X) Unit) := by
  intro scene queue
  unfold setGroup
  dsimp only [withQueue]
  cases scene.tree.setGroup v group <;> rfl

variable [Clock T]

theorem silent_start (v : ViewId) (destination : Rect K) (duration : Duration) :
    Silent (start v destination duration : EStateM (MotionError K) (Scene K T A X) Unit) := by
  intro scene queue
  unfold start
  dsimp only [withQueue]
  cases scene.animator.start scene.tree v destination duration <;> rfl

omit [Scalar K] in
theorem foldl_release_withQueue (ids : List ViewId) (scene : Scene K T A X)
    (queue : List Message) :
    ids.foldl release (scene.withQueue queue) = (ids.foldl release scene).withQueue queue := by
  induction ids generalizing scene with
  | nil => rfl
  | cons v ids ih => exact ih (scene.release v)

omit [Scalar K] in
theorem silent_remove (v : ViewId) :
    Silent (remove v : EStateM ViewError (Scene K T A X) Unit) := by
  intro scene queue
  unfold remove
  dsimp only [withQueue]
  cases scene.tree.remove v with
  | error e => rfl
  | ok tree =>
    have hreleased := foldl_release_withQueue
      ((scene.tree.collect? (scene.tree.size + 1) [v]).getD []) { scene with tree } queue
    exact congrArg (EStateM.Result.ok ()) hreleased

end Operations

end Scene

namespace Program

theorem attempt_leavesQueue {ε : Type} {action : EStateM ε (Scene K T A X) α}
    (h : Scene.Silent action) :
    (attempt action : Program A (Scene K T A X) (Except ε α)).LeavesQueue := by
  apply leavesQueue_step
  intro scene queue
  rw [h]
  cases action scene <;> rfl

end Program

namespace Interpreter

variable {interpreter : Interpreter A (Scene K T A X)} {queue queue' : List Message}

theorem SendsNothing.callWithin (h : interpreter.SendsNothing) (depth : Nat) :
    CallsAlike queue queue' (interpreter.callWithin depth) := by
  induction depth with
  | zero => exact fun _ _ _ _ hturn => ⟨rfl, hturn⟩
  | succ depth ih =>
    intro handler event turn turn' hturn
    unfold Interpreter.callWithin
    rw [hturn.active_eq]
    split
    · exact ⟨rfl, hturn⟩
    · have hran := (h handler.code event queue queue').exec_eq ih (hturn.enter handler.id)
      exact ⟨rfl, hran.2.leave handler.id⟩

theorem SendsNothing.run (h : interpreter.SendsNothing)
    {program : Program A (Scene K T A X) α} (hprogram : program.LeavesQueue)
    (scene : Scene K T A X) (queue : List Message) :
    (interpreter.run program (scene.withQueue queue)).2 =
        (interpreter.run program scene).2.withQueue queue ∧
      (interpreter.run program scene).2.queue = scene.queue := by
  have hran := (hprogram scene.queue queue).exec_eq (h.callWithin interpreter.depth)
    (Turn.alike_withQueue scene [])
  exact ⟨hran.2.state_eq, hran.2.queue_eq⟩

end Interpreter

end ViewMotion
