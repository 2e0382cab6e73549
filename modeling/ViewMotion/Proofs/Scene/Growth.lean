import ViewMotion.Proofs.Action
import ViewMotion.Proofs.Scene.History
import ViewMotion.Proofs.ViewTree.Extension

/-!
This module contains what becomes of a scene when views are added to it: they have names that nobody
has heard of, and all other views are left alone.
-/

namespace ViewMotion

variable {K : Type} {parent v : ViewId} {kind : ViewKind K}

namespace Scene

variable {T A X : Type}

theorem onTree_ends {ε α : Type} {action : EStateM ε (ViewTree K) α} {scene : Scene K T A X}
    {post : α → Scene K T A X → Prop} {failed : ε → Scene K T A X → Prop}
    (h : Ends action scene.tree (fun result tree => post result { scene with tree })
      fun e tree => failed e { scene with tree }) : Ends (onTree action) scene post failed := by
  unfold Ends onTree at *
  cases haction : action scene.tree with
  | ok result tree =>
    rw [haction] at h
    exact h
  | error e tree =>
    rw [haction] at h
    exact h

theorem settle_of_ends {ε α : Type} {action : EStateM ε (Scene K T A X) α} {scene : Scene K T A X}
    (post : Scene K T A X → Prop) (h : Ends action scene (fun _ => post) fun _ => post) :
    post (settle action scene) := by
  unfold Ends at h
  unfold settle
  cases haction : action scene with
  | ok result after =>
    rw [haction] at h
    exact h
  | error e after =>
    rw [haction] at h
    exact h

/--
Each view that was added comes with the one that it was put into. They have come in this order.
-/
structure Grown (added : List (ViewId × ViewId)) (scene after : Scene K T A X) : Prop where
  named_extends : scene.named.Extends added after.named
  issued_iff (v : ViewId) :
    after.names.Issued v ↔ v ∈ added.map Prod.fst ∨ scene.names.Issued v
  bounds?_eq {v : ViewId} (hv : v ∉ added.map Prod.fst) :
    after.tree.bounds? v = scene.tree.bounds? v
  others_eq : after = { scene with tree := after.tree, names := after.names }

namespace Grown

variable {scene next after : Scene K T A X} {added others : List (ViewId × ViewId)}

theorem trans (h : Grown added scene next) (h' : Grown others next after) :
    Grown (added ++ others) scene after where
  named_extends := h.named_extends.trans h'.named_extends
  issued_iff v := by
    rw [h'.issued_iff, h.issued_iff, List.map_append, List.mem_append, or_assoc, or_left_comm]
  bounds?_eq {v} hv := by
    rw [List.map_append, List.mem_append, not_or] at hv
    rw [h'.bounds?_eq hv.2, h.bounds?_eq hv.1]
  others_eq := by
    have hfirst := h.others_eq
    have hlast := h'.others_eq
    rw [hfirst] at hlast
    exact hlast

theorem animator_eq (h : Grown added scene after) : after.animator = scene.animator := by
  rw [h.others_eq]

theorem handlers_eq (h : Grown added scene after) : after.handlers = scene.handlers := by
  rw [h.others_eq]

theorem store_eq (h : Grown added scene after) : after.store = scene.store := by
  rw [h.others_eq]

theorem sound (h : Grown added scene after) : after.named.Sound := h.named_extends.sound

theorem mem_kinds (h : Grown added scene after) (v : ViewId) :
    v ∈ after.tree.kinds ↔ v ∈ added.map Prod.fst ∨ v ∈ scene.tree.kinds :=
  h.named_extends.mem_kinds v

theorem kind?_eq (h : Grown added scene after) (hv : v ∉ added.map Prod.fst) :
    after.tree.kind? v = scene.tree.kind? v :=
  h.named_extends.kind?_eq hv

theorem kind?_of_some (h : Grown added scene after) {kind : ViewKind K}
    (hkind : scene.tree.kind? v = some kind) : after.tree.kind? v = some kind := by
  have hv : v ∈ scene.tree.kinds := by
    rw [ViewTree.mem_kinds_iff_isSome, hkind]
    rfl
  rw [h.kind?_eq (h.named_extends.not_added_of_mem hv), hkind]

theorem fresh (h : Grown added scene after) (hv : v ∈ added.map Prod.fst) :
    ¬ scene.names.Issued v :=
  h.named_extends.fresh hv

end Grown

section Adding

variable [Scalar K] {scene next : Scene K T A X} {added : List (ViewId × ViewId)}

theorem add_grown (h : scene.named.Sound) (hparent : parent ∈ scene.tree.kinds)
    (kind : ViewKind K) :
    Succeeds (add parent kind) scene fun v after =>
      Grown [(v, parent)] scene after ∧ after.tree.kind? v = some kind := by
  have hinsert : scene.tree.insert parent kind scene.names.take.1 =
      .ok ((scene.tree.enter scene.names.upcoming kind).attach parent scene.names.upcoming) := by
    rw [ViewTree.insert_eq_ok_iff]
    exact ⟨hparent, rfl⟩
  have hadd : add parent kind scene = .ok scene.names.upcoming
      { scene with
        tree := (scene.tree.enter scene.names.upcoming kind).attach parent scene.names.upcoming
        names := scene.names.take.2 } := by
    unfold add
    dsimp only
    rw [hinsert]
    rfl
  apply Succeeds.of_ok hadd
  constructor
  · constructor
    case named_extends => exact h.attach hparent kind
    case issued_iff =>
      intro v
      rw [List.map_singleton, List.mem_singleton, eq_comm]
      apply ViewNames.issued_take_iff
    case bounds?_eq =>
      intro v hv
      rw [List.map_singleton, List.mem_singleton, eq_comm] at hv
      dsimp only
      rw [ViewTree.attach_bounds?, if_neg hv]
    case others_eq => rfl
  · simp only [ViewTree.attach, ViewTree.disarrange, ViewTree.enter, ViewTree.damage,
      ViewTree.kind?, Std.ExtTreeMap.getElem?_insert_self]

theorem Grown.add (h : Grown added scene next) (hparent : parent ∈ next.tree.kinds)
    (kind : ViewKind K) :
    Succeeds (Scene.add parent kind) next fun v after =>
      Grown (added ++ [(v, parent)]) scene after ∧ Grown [(v, parent)] next after ∧
        after.tree.kind? v = some kind :=
  (add_grown h.sound hparent kind).mono fun _ _ hadded => ⟨h.trans hadded.1, hadded⟩

theorem add_error (hparent : parent ∉ scene.tree.kinds)
    (kind : ViewKind K) : add parent kind scene = .error (.missing parent) scene := by
  have hinsert : scene.tree.insert parent kind scene.names.take.1 = .error (.missing parent) := by
    unfold ViewTree.insert
    rw [if_neg fun hcontains => hparent (ViewTree.contains_iff_mem.mp hcontains)]
  unfold add
  dsimp only
  rw [hinsert]

end Adding

/--
Nothing is kept for a view that does not have its name yet.
-/
structure Tidy (scene : Scene K T A X) : Prop where
  sound : scene.named.Sound
  find?_eq_none {v : ViewId} (hv : ¬ scene.names.Issued v) (kind : EventKind) :
    scene.handlers.find? v kind = none
  motion?_eq_none {v : ViewId} (hv : ¬ scene.names.Issued v) : scene.animator.motion? v = none

variable {scene : Scene K T A X}

theorem Tidy.not_isMoving (h : scene.Tidy) {v : ViewId} (hv : ¬ scene.names.Issued v) :
    ¬ scene.animator.isMoving v := by
  rw [Animator.isMoving_eq_isSome, h.motion?_eq_none hv]
  exact Bool.false_ne_true

theorem tidy_of_idle (hsound : scene.named.Sound)
    (hhandlers : ∀ v kind, scene.handlers.find? v kind = none)
    (hmotions : ∀ v, scene.animator.motion? v = none) : scene.Tidy where
  sound := hsound
  find?_eq_none _ kind := hhandlers _ kind
  motion?_eq_none _ := hmotions _

theorem tidy_of_only_tree [Scalar K] [Clock T] (names : ViewNames) (clock : T)
    (defaults : MotionDefaults) (store : X) (requests : List (TreeRequest K)) :
    ((new names clock defaults store : Scene K T A X).run (requests.map .onTree)).Tidy := by
  have hidle (requests : List (TreeRequest K)) (scene : Scene K T A X) :
      (scene.run (requests.map .onTree)).handlers = scene.handlers ∧
        (scene.run (requests.map .onTree)).animator = scene.animator := by
    induction requests generalizing scene with
    | nil => exact ⟨rfl, rfl⟩
    | cons request requests ih => exact ih (scene.perform (.onTree request))
  rcases hidle requests (new names clock defaults store) with ⟨hhandlers, hanimator⟩
  apply tidy_of_idle
  · apply Reachable.sound ⟨names, clock, defaults, store, _, rfl⟩
  · intro v kind
    rw [hhandlers]
    apply Std.ExtTreeMap.getElem?_empty
  · intro v
    rw [hanimator]
    apply Std.ExtTreeMap.getElem?_empty

namespace Tidy

theorem grown (h : scene.Tidy) {after : Scene K T A X} {added : List (ViewId × ViewId)}
    (hgrown : Grown added scene after) : after.Tidy where
  sound := hgrown.sound
  find?_eq_none {v} hv kind := by
    rw [hgrown.handlers_eq]
    exact h.find?_eq_none (fun hissued => hv ((hgrown.issued_iff v).mpr (Or.inr hissued))) kind
  motion?_eq_none {v} hv := by
    rw [hgrown.animator_eq]
    exact h.motion?_eq_none fun hissued => hv ((hgrown.issued_iff v).mpr (Or.inr hissued))

theorem register (h : scene.Tidy) (hv : scene.names.Issued v) (kind : EventKind) (code : A) :
    (scene.register v kind code).Tidy where
  sound := h.sound
  find?_eq_none {w} hw kind' := by
    unfold Scene.register
    rw [HandlerTable.insert_find?, if_neg]
    · apply h.find?_eq_none hw
    · intro heq
      apply hw (heq.1 ▸ hv)
  motion?_eq_none hw := h.motion?_eq_none hw

theorem with_store (h : scene.Tidy) (store : X) : ({ scene with store } : Scene K T A X).Tidy where
  sound := h.sound
  find?_eq_none hw kind := h.find?_eq_none hw kind
  motion?_eq_none hw := h.motion?_eq_none hw

theorem of_tree (h : scene.Tidy) {tree : ViewTree K}
    (hsound : NamedTree.Sound ⟨tree, scene.names⟩) :
    ({ scene with tree } : Scene K T A X).Tidy where
  sound := hsound
  find?_eq_none hw kind := h.find?_eq_none hw kind
  motion?_eq_none hw := h.motion?_eq_none hw

end Tidy

end Scene

end ViewMotion
