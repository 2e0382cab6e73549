import ViewMotion.Proofs.Motion.Frame
import ViewMotion.Proofs.ViewTree.History
import ViewMotion.Scene

/-!
This module contains the requests to a scene, and what they come to for its tree: each of them acts
on the tree like some requests to the tree alone.
-/

namespace ViewMotion

inductive SceneRequest (K T A X : Type) where
  | onTree (request : TreeRequest K)
  | remove (v : ViewId)
  | clear (v : ViewId)
  | start (v : ViewId) (destination : Rect K) (duration : Duration)
  | startDefault (v : ViewId) (destination : Rect K)
  | stop (v : ViewId)
  | stopAll
  | frame (now : Instant)
  | setDefaults (defaults : MotionDefaults)
  | setClock (clock : T)
  | setOthers (handlers : HandlerTable A) (queue : List Message) (nextHandler : HandlerId)
    (store : X)

namespace Scene

variable {K T A X ε α : Type}

-- the scene after an action, whether it fails or not
def settle (action : EStateM ε (Scene K T A X) α) (scene : Scene K T A X) : Scene K T A X :=
  match action scene with
  | .ok _ scene => scene
  | .error _ scene => scene

theorem eq_ok_of_run' {action : EStateM ε (Scene K T A X) α} {scene : Scene K T A X} {result : α}
    (h : action.run' scene = some result) : action scene = .ok result (settle action scene) := by
  unfold EStateM.run' EStateM.run at h
  unfold settle
  cases haction : action scene with
  | ok found after =>
    rw [haction] at h
    injection h with h
    rw [h]
  | error e after =>
    rw [haction] at h
    contradiction

def named (scene : Scene K T A X) : NamedTree K := ⟨scene.tree, scene.names⟩

variable [Scalar K] [Clock T]

def perform (scene : Scene K T A X) : SceneRequest K T A X → Scene K T A X
  | .onTree request =>
    let named := scene.named.perform request
    { scene with tree := named.tree, names := named.names }
  | .remove v => settle (remove v) scene
  | .clear v => settle (clear v) scene
  | .start v destination duration => settle (start v destination duration) scene
  | .startDefault v destination => settle (startDefault v destination) scene
  | .stop v => (scene.stop v).2
  | .stopAll => { scene with animator := scene.animator.stopAll }
  | .frame now => (scene.frame now).2
  | .setDefaults defaults => { scene with animator := { scene.animator with defaults } }
  | .setClock clock => { scene with animator := { scene.animator with clock } }
  | .setOthers handlers queue nextHandler store =>
    { scene with handlers, queue, nextHandler, store }

def run (scene : Scene K T A X) (requests : List (SceneRequest K T A X)) : Scene K T A X :=
  requests.foldl perform scene

def Reachable (scene : Scene K T A X) : Prop :=
  ∃ names clock defaults store requests, scene = (new names clock defaults store).run requests

omit [Scalar K] in
theorem foldl_release_named (vs : List ViewId) (scene : Scene K T A X) :
    (vs.foldl release scene).named = scene.named := by
  induction vs generalizing scene with
  | nil => rfl
  | cons v vs ih =>
    rw [List.foldl_cons, ih]
    rfl

theorem remove_named (v : ViewId) (scene : Scene K T A X) :
    (settle (remove v) scene).named = scene.named.perform (.remove v) := by
  unfold settle remove NamedTree.perform
  dsimp only [named]
  cases scene.tree.remove v with
  | error e => rfl
  | ok tree => apply foldl_release_named

omit [Scalar K] [Clock T] in
theorem settle_bind {β : Type} (action : EStateM ε (Scene K T A X) α)
    (next : α → EStateM ε (Scene K T A X) β) (scene : Scene K T A X) :
    settle (EStateM.bind action next) scene =
      match action scene with
      | .ok result scene => settle (next result) scene
      | .error _ scene => scene := by
  unfold settle EStateM.bind
  cases action scene <;> rfl

theorem forM_remove_eq_run (vs : List ViewId) (scene : Scene K T A X) :
    ∃ us, us ⊆ vs ∧ settle (vs.forM remove) scene = scene.run (us.map .remove) := by
  induction vs generalizing scene with
  | nil => exact ⟨[], List.nil_subset [], rfl⟩
  | cons v vs ih =>
    have hfirst : scene.perform (.remove v) = settle (remove v) scene := rfl
    change ∃ us, us ⊆ v :: vs ∧
      settle (EStateM.bind (remove v) fun _ => vs.forM remove) scene = scene.run (us.map .remove)
    rw [settle_bind]
    unfold settle at hfirst
    cases hremove : remove v scene with
    | ok _ next =>
      rw [hremove] at hfirst
      rcases ih next with ⟨us, hus, hrun⟩
      refine ⟨v :: us, List.cons_subset_cons v hus, ?_⟩
      dsimp only at hfirst ⊢
      rw [hrun, ← hfirst]
      rfl
    | error e next =>
      rw [hremove] at hfirst
      exact ⟨[v], List.cons_subset_cons v (List.nil_subset vs), hfirst.symm⟩

theorem clear_eq_run (v : ViewId) (scene : Scene K T A X) :
    ∃ us, us ⊆ scene.tree.subviews v ∧
      scene.perform (.clear v) = scene.run (us.map .remove) :=
  forM_remove_eq_run (scene.tree.subviews v) scene

theorem run_removes_named (vs : List ViewId) (scene : Scene K T A X) :
    (scene.run (vs.map .remove)).named = scene.named.run (vs.map .remove) := by
  induction vs generalizing scene with
  | nil => rfl
  | cons v vs ih =>
    change ((scene.perform (.remove v)).run (vs.map .remove)).named =
      (scene.named.perform (.remove v)).run (vs.map .remove)
    rw [ih, ← remove_named]
    rfl

theorem bringAll_eq_run (now : Instant) (order : List (ViewId × Motion K)) (state : NamedTree K) :
    ∃ requests, { state with tree := (Motion.bringAll now order state.tree).2 } =
      state.run requests := by
  induction order generalizing state with
  | nil => exact ⟨[], rfl⟩
  | cons entry order ih =>
    obtain ⟨requests, hrequests⟩ :=
      ih (state.perform (.place entry.1 (entry.2.rectAt now)))
    refine ⟨.place entry.1 (entry.2.rectAt now) :: requests, ?_⟩
    rw [Motion.bringAll_cons]
    exact hrequests

theorem perform_named (request : SceneRequest K T A X) (scene : Scene K T A X) :
    ∃ requests, (scene.perform request).named = scene.named.run requests := by
  have keep {after : Scene K T A X} (h : after.named = scene.named) :
      ∃ requests, after.named = scene.named.run requests := ⟨[], h⟩
  cases request with
  | onTree request => exact ⟨[request], rfl⟩
  | remove v => exact ⟨[.remove v], remove_named v scene⟩
  | clear v =>
    rcases clear_eq_run v scene with ⟨us, -, hrun⟩
    refine ⟨us.map .remove, ?_⟩
    rw [hrun, run_removes_named]
  | start v destination duration =>
    apply keep
    unfold perform settle start
    dsimp only
    cases scene.animator.start scene.tree v destination duration <;> rfl
  | startDefault v destination =>
    apply keep
    unfold perform settle startDefault
    dsimp only
    cases scene.animator.startDefault scene.tree v destination <;> rfl
  | stop v => apply keep rfl
  | stopAll => apply keep rfl
  | frame now => apply bringAll_eq_run now scene.animator.motions.toList scene.named
  | setDefaults defaults => apply keep rfl
  | setClock clock => apply keep rfl
  | setOthers handlers queue nextHandler store => apply keep rfl

theorem perform_sound {scene : Scene K T A X} (h : scene.named.Sound)
    (request : SceneRequest K T A X) : (scene.perform request).named.Sound := by
  rcases perform_named request scene with ⟨requests, hrequests⟩
  rw [hrequests]
  apply h.run requests

theorem run_named (requests : List (SceneRequest K T A X)) (scene : Scene K T A X) :
    ∃ treeRequests, (scene.run requests).named = scene.named.run treeRequests := by
  induction requests generalizing scene with
  | nil => exact ⟨[], rfl⟩
  | cons request requests ih =>
    rcases perform_named request scene with ⟨first, hfirst⟩
    rcases ih (scene.perform request) with ⟨others, hothers⟩
    refine ⟨first ++ others, ?_⟩
    rw [NamedTree.run_append, ← hfirst]
    exact hothers

theorem run_sound {scene : Scene K T A X} (h : scene.named.Sound)
    (requests : List (SceneRequest K T A X)) : (scene.run requests).named.Sound := by
  rcases run_named requests scene with ⟨treeRequests, hrun⟩
  rw [hrun]
  apply h.run treeRequests

theorem run_append (requests later : List (SceneRequest K T A X)) (scene : Scene K T A X) :
    scene.run (requests ++ later) = (scene.run requests).run later := by
  unfold run
  rw [List.foldl_append]

theorem Reachable.sound {scene : Scene K T A X} (h : scene.Reachable) : scene.named.Sound := by
  rcases h with ⟨names, clock, defaults, store, requests, rfl⟩
  apply run_sound
  apply NamedTree.new_sound

theorem Reachable.wellFormed {scene : Scene K T A X} (h : scene.Reachable) :
    scene.tree.WellFormed :=
  h.sound.wellFormed

end Scene

end ViewMotion
