import ViewMotion.Proofs.Scene.Caution
import ViewMotion.Proofs.Scene.Clearing
import ViewMotion.Proofs.Scene.Silence

/-!
This module contains what actions on a scene are composed of. An action is taken apart only once,
and whatever can be said of each of its steps holds for all of it.
-/

namespace ViewMotion.Scene

variable {K T A X ε α : Type}

/--
Says which actions are steps. Some views are known to be in the tree when a step is taken, and
others are learned to be there if it succeeds.
-/
abbrev StepRule (K T A X : Type) : Type 1 :=
  (ε α : Type) → List ViewId → EStateM ε (Scene K T A X) α → (α → List ViewId) → Prop

/--
The action is composed of steps. What it reads in between is not the queue.
-/
inductive Composed (step : StepRule K T A X) :
    {ε α : Type} → List ViewId → EStateM ε (Scene K T A X) α → (α → List ViewId) → Prop where
  | step {ε α : Type} {known : List ViewId} {action : EStateM ε (Scene K T A X) α}
    {learned : α → List ViewId} (h : step ε α known action learned) :
    Composed step known action learned
  | pure {ε α : Type} {known : List ViewId} {learned : α → List ViewId} {result : α}
    (h : learned result ⊆ known) :
    Composed step known (pure result : EStateM ε (Scene K T A X) α) learned
  | bind {ε α β : Type} {known : List ViewId} {action : EStateM ε (Scene K T A X) α}
    {learned : α → List ViewId} {next : α → EStateM ε (Scene K T A X) β}
    {final : β → List ViewId} (h : Composed step known action learned)
    (hnext : ∀ result, Composed step (learned result) (next result) final) :
    Composed step known (action >>= next) final
  | read {ε α : Type} {known : List ViewId} {learned : α → List ViewId}
    {next : Scene K T A X → EStateM ε (Scene K T A X) α}
    (hnext : ∀ scene, Composed step known (next scene) learned)
    (hqueue : ∀ scene queue, next (scene.withQueue queue) = next scene) :
    Composed step known (get >>= next) learned
  | adaptExcept {ε ε' α : Type} {known : List ViewId} {action : EStateM ε (Scene K T A X) α}
    {learned : α → List ViewId} (f : ε → ε') (h : Composed step known action learned) :
    Composed step known (EStateM.adaptExcept f action) learned
  | settle {ε ε' α : Type} {known : List ViewId} {action : EStateM ε (Scene K T A X) α}
    {learned : α → List ViewId} (h : Composed step known action learned) :
    Composed step known (modify (settle action) : EStateM ε' (Scene K T A X) Unit) fun _ => []

namespace Composed

variable {step : StepRule K T A X} {known : List ViewId}

theorem forM {β : Type} {action : β → EStateM ε (Scene K T A X) PUnit} (xs : List β)
    (h : ∀ x ∈ xs, Composed step known (action x) fun _ => known) :
    Composed step known (xs.forM action) fun _ => known := by
  induction xs with
  | nil => exact .pure (List.Subset.refl known)
  | cons x xs ih =>
    apply Composed.bind (h x List.mem_cons_self)
    exact fun _ => ih fun y hy => h y (List.mem_cons_of_mem x hy)

variable {action : EStateM ε (Scene K T A X) α} {learned : α → List ViewId}

theorem discard {kept : List ViewId} (h : Composed step known action fun _ => kept) :
    Composed step known (discard action) fun _ => kept := by
  have heq : Functor.discard action = action >>= fun _ => Pure.pure PUnit.unit := by
    funext scene
    change EStateM.map _ action scene = EStateM.bind action _ scene
    unfold EStateM.map EStateM.bind
    cases action scene <;> rfl
  rw [heq]
  exact h.bind fun _ => .pure (List.Subset.refl kept)

theorem along {related : Scene K T A X → Scene K T A X → Prop}
    (hrefl : ∀ scene, related scene scene)
    (htrans : ∀ scene next after, related scene next → related next after → related scene after)
    (hstep : ∀ {ε α : Type} {known : List ViewId} {action : EStateM ε (Scene K T A X) α}
      {learned : α → List ViewId}, step ε α known action learned → Along related action)
    (h : Composed step known action learned) : Along related action := by
  induction h with
  | step h => exact hstep h
  | pure _ => exact along_pure hrefl _
  | bind _ _ ih ihnext => exact ih.bind ihnext htrans
  | read _ _ ih => exact (along_get hrefl).bind ih htrans
  | adaptExcept f _ ih => exact ih.adaptExcept f
  | settle _ ih => exact along_modify fun scene => settle_of_ends (related scene) (ih scene)

end Composed

/--
What handlers keep for themselves is as before.
-/
def SameStore (scene after : Scene K T A X) : Prop := after.store = scene.store

theorem sameStore_onTree (action : EStateM ε (ViewTree K) α) :
    Along SameStore (onTree action : EStateM ε (Scene K T A X) α) := by
  intro scene
  unfold Ends onTree
  cases action scene.tree <;> rfl

theorem sameStore_setGroup (v : ViewId) (group : Nat) :
    Along SameStore (setGroup v group : EStateM ViewError (Scene K T A X) Unit) := by
  intro scene
  unfold Ends setGroup
  cases scene.tree.setGroup v group <;> rfl

theorem sameStore_add [Scalar K] (parent : ViewId) (kind : ViewKind K) :
    Along SameStore (add parent kind : EStateM ViewError (Scene K T A X) ViewId) := by
  intro scene
  unfold Ends add
  dsimp only
  cases scene.tree.insert parent kind scene.names.take.1 <;> rfl

theorem sameStore_start [Scalar K] [Clock T] (v : ViewId) (destination : Rect K)
    (duration : Duration) : Along SameStore
      (start v destination duration : EStateM (MotionError K) (Scene K T A X) Unit) := by
  intro scene
  unfold Ends start
  dsimp only
  cases scene.animator.start scene.tree v destination duration <;> rfl

theorem sameStore_remove [Clock T] (v : ViewId) :
    Along SameStore (remove v : EStateM ViewError (Scene K T A X) Unit) := by
  intro scene
  unfold Ends remove
  dsimp only
  cases scene.tree.remove v with
  | error e => exact rfl
  | ok tree => exact foldl_release_store _ { scene with tree }

/--
The result depends on what handlers keep for themselves, and nothing else is changed.
-/
structure Writes (writes : Scene K T A X → Scene K T A X → Prop)
    (f : Scene K T A X → α × Scene K T A X) : Prop where
  store (scene : Scene K T A X) : ∃ store, (f scene).2 = { scene with store }
  queue (scene : Scene K T A X) (queue : List Message) :
    f (scene.withQueue queue) = ((f scene).1, (f scene).2.withQueue queue)
  writes (scene : Scene K T A X) : writes scene (f scene).2

/--
The requests that actions are composed of. What handlers keep for themselves is only changed as
`writes` has it.
-/
inductive BasicStep [Scalar K] [Clock T] (writes : Scene K T A X → Scene K T A X → Prop) :
    StepRule K T A X where
  | onTree {ε α : Type} {known : List ViewId} {layout : EStateM ε (ViewTree K) α}
    (h : Layout.Relays layout) : BasicStep writes ε α known (onTree layout) fun _ => known
  | add {known : List ViewId} (parent : ViewId) (kind : ViewKind K) :
    BasicStep writes ViewError ViewId known (add parent kind) fun v => v :: known
  | setGroup {known : List ViewId} (v : ViewId) (group : Nat) :
    BasicStep writes ViewError Unit known (setGroup v group) fun _ => known
  | register {ε : Type} {known : List ViewId} {v : ViewId} (hv : v ∈ known) (kind : EventKind)
    (code : A) : BasicStep writes ε Unit known (modify (register v kind code)) fun _ => known
  | start {known : List ViewId} (v : ViewId) (destination : Rect K) (duration : Duration) :
    BasicStep writes (MotionError K) Unit known (start v destination duration) fun _ => known
  | stop {ε : Type} {known : List ViewId} (v : ViewId) :
    BasicStep writes ε Unit known (modify fun scene => (scene.stop v).2) fun _ => known
  | remove {known : List ViewId} (v : ViewId) :
    BasicStep writes ViewError Unit known (remove v) fun _ => []
  | write {ε α : Type} {known : List ViewId} {f : Scene K T A X → α × Scene K T A X}
    (h : Writes writes f) : BasicStep writes ε α known (modifyGet f) fun _ => known

section Steps

variable [Scalar K] [Clock T] {writes : Scene K T A X → Scene K T A X → Prop}
  {known : List ViewId} {action : EStateM ε (Scene K T A X) α} {learned : α → List ViewId}

theorem composed_clear (known : List ViewId) (v : ViewId) :
    Composed (BasicStep writes) known (clear v) fun _ => [] := by
  have removes (known : List ViewId) (vs : List ViewId) :
      Composed (BasicStep writes) known (vs.forM remove) fun _ => [] := by
    induction vs generalizing known with
    | nil => exact .pure (List.nil_subset known)
    | cons v vs ih => exact (Composed.step (.remove v)).bind fun _ => ih []
  unfold clear
  exact .read (fun scene => removes known (scene.tree.subviews v)) fun _ _ => rfl

theorem BasicStep.careful (h : BasicStep writes ε α known action learned) :
    Careful known action learned := by
  cases h with
  | onTree h => exact careful_onTree known h
  | add parent kind => exact careful_add known parent kind
  | setGroup v group => exact careful_setGroup known v group
  | register hv kind code => exact careful_register known hv kind code
  | start v destination duration => exact careful_start known v destination duration
  | stop v => exact careful_modify fun scene _ => scene.fills_stop v
  | remove v => exact careful_remove known v
  | write h =>
    apply careful_modifyGet
    intro scene _
    obtain ⟨store, heq⟩ := h.store scene
    rw [heq]
    exact scene.fills_others scene.queue store

theorem Composed.careful (h : Composed (BasicStep writes) known action learned) :
    Careful known action learned := by
  induction h with
  | step h => exact h.careful
  | pure h => exact careful_pure h
  | bind _ _ ih ihnext => exact ih.bind ihnext
  | read _ _ ih => exact careful_get_bind ih
  | adaptExcept f _ ih => exact ih.adaptExcept f
  | settle _ ih => exact ih.modify_settle

section Relating

variable {related : Scene K T A X → Scene K T A X → Prop}
  (hsame : ∀ scene after, scene.SameStore after → related scene after)
  (hwrites : ∀ scene after, writes scene after → related scene after)

include hsame hwrites

theorem BasicStep.along (h : BasicStep writes ε α known action learned) : Along related action := by
  cases h with
  | onTree h => exact (sameStore_onTree _).mono hsame
  | add parent kind => exact (sameStore_add parent kind).mono hsame
  | setGroup v group => exact (sameStore_setGroup v group).mono hsame
  | register hv kind code => exact along_modify fun _ => hsame _ _ rfl
  | start v destination duration => exact (sameStore_start v destination duration).mono hsame
  | stop v => exact along_modify fun _ => hsame _ _ rfl
  | remove v => exact (sameStore_remove v).mono hsame
  | write h => exact along_modifyGet fun scene => hwrites _ _ (h.writes scene)

theorem Composed.along_of_writes
    (htrans : ∀ scene next after, related scene next → related next after → related scene after)
    (h : Composed (BasicStep writes) known action learned) : Along related action :=
  h.along (fun scene => hsame scene scene rfl) htrans fun hstep => hstep.along hsame hwrites

end Relating

theorem BasicStep.silent (h : BasicStep writes ε α known action learned) : Silent action := by
  cases h with
  | onTree h => exact silent_onTree _
  | add parent kind => exact silent_add parent kind
  | setGroup v group => exact silent_setGroup v group
  | register hv kind code => exact silent_modify fun _ _ => rfl
  | start v destination duration => exact silent_start v destination duration
  | stop v => exact silent_modify fun _ _ => rfl
  | remove v => exact silent_remove v
  | write h => exact silent_modifyGet h.queue

omit [Scalar K] [Clock T] in
theorem Silent.modify_settle {ε' : Type} (h : Silent action) :
    Silent (modify (settle action) : EStateM ε' (Scene K T A X) Unit) := by
  apply silent_modify
  intro scene queue
  unfold settle
  rw [h]
  cases action scene <;> rfl

theorem Composed.silent (h : Composed (BasicStep writes) known action learned) : Silent action := by
  induction h with
  | step h => exact h.silent
  | pure h => exact silent_pure _
  | bind _ _ ih ihnext => exact ih.bind ihnext
  | read _ hqueue ih => exact silent_get_bind ih hqueue
  | adaptExcept f _ ih => exact ih.adaptExcept f
  | settle _ ih => exact ih.modify_settle

end Steps

end ViewMotion.Scene
