import ViewMotion.Proofs.Action
import ViewMotion.Proofs.Scene.Anchoring
import ViewMotion.Proofs.ViewTree.Arrangement

/-!
This module contains actions that do nothing to a scene but make careful requests. They know of some
views that these are in the tree, and thus that they can be listened to.
-/

namespace ViewMotion

variable {K T A X ε α : Type} [Scalar K]

namespace ViewTree

def Relays (tree after : ViewTree K) : Prop :=
  (∃ v bounds, (tree.place v bounds).2 = after) ∨ ∃ v change, tree.modifyKind? v change = some after

/--
Views get other bounds or kinds, one after another.
-/
def Relaid : ViewTree K → ViewTree K → Prop := Relation.ReflTransGen Relays

theorem Relaid.shape {tree after : ViewTree K} (h : tree.Relaid after) : SameShape tree after := by
  induction h with
  | refl => exact .refl _
  | @tail middle _ _ hrelays ih =>
    apply ih.trans
    rcases hrelays with ⟨v, bounds, rfl⟩ | ⟨v, change, hmodify⟩
    · exact (middle.place_moved bounds (Set.mem_singleton v)).shape
    · exact (modifyKind?_effect hmodify).2.1

theorem Relaid.wellFormed {tree after : ViewTree K} (h : tree.Relaid after)
    (hformed : tree.WellFormed) : after.WellFormed := by
  induction h with
  | refl => exact hformed
  | tail _ hrelays ih =>
    rcases hrelays with ⟨v, bounds, rfl⟩ | ⟨v, change, hmodify⟩
    · exact ih.place v bounds
    · exact ih.modifyKind? hmodify

end ViewTree

namespace Layout

/--
The layout does nothing but to give views other bounds or kinds, whether it gets to its end or stops
before.
-/
def Relays (layout : EStateM ε (ViewTree K) α) : Prop := Along ViewTree.Relaid layout

end Layout

namespace Scene

variable [Clock T]

/--
The scene gets to the other one by careful requests, and none of them takes a view out.
-/
structure Fills (scene after : Scene K T A X) : Prop where
  leads : scene.Leads after
  keeps : ∀ v ∈ scene.tree.kinds, v ∈ after.tree.kinds

section Filling

variable {scene next after : Scene K T A X}

theorem Fills.refl (scene : Scene K T A X) : scene.Fills scene := ⟨.refl, fun _ hv => hv⟩

theorem Fills.trans (h : scene.Fills next) (h' : next.Fills after) : scene.Fills after :=
  ⟨h.leads.trans h'.leads, fun v hv => h'.keeps v (h.keeps v hv)⟩

theorem fills_onTree {request : TreeRequest K} (hremove : ∀ w, request ≠ .remove w)
    (hclear : ∀ w, request ≠ .clear w) : scene.Fills (scene.perform (.onTree request)) := by
  refine ⟨scene.leads_perform _ ?_, fun v hv => NamedTree.mem_perform hremove hclear hv⟩
  cases request with
  | remove w => exact absurd rfl (hremove w)
  | clear w => exact absurd rfl (hclear w)
  | _ => trivial

theorem fills_relaid {tree : ViewTree K} (h : scene.tree.Relaid tree) :
    scene.Fills { scene with tree } := by
  induction h with
  | refl => exact .refl scene
  | @tail middle after _ hrelays ih =>
    have hnext : ∃ request : TreeRequest K, (∀ w, request ≠ .remove w) ∧
        (∀ w, request ≠ .clear w) ∧
        ({ scene with tree := middle } : Scene K T A X).perform (.onTree request) =
          { scene with tree := after } := by
      cases hrelays with
      | inl hplace =>
        obtain ⟨v, bounds, rfl⟩ := hplace
        exact ⟨.place v bounds, by simp, by simp, rfl⟩
      | inr hmodify =>
        obtain ⟨v, change, hmodify⟩ := hmodify
        refine ⟨.modifyKind v change, by simp, by simp, ?_⟩
        simp [perform, NamedTree.perform, named, hmodify]
    obtain ⟨request, hremove, hclear, hperform⟩ := hnext
    rw [← hperform]
    exact ih.trans (fills_onTree hremove hclear)

theorem fills_register {v : ViewId} (hv : v ∈ scene.tree.kinds) (kind : EventKind) (code : A) :
    scene.Fills (scene.register v kind code) := by
  have hcareful : SceneRequest.Careful scene (.setOthers (scene.register v kind code).handlers
      scene.queue scene.nextHandler.next scene.store) := by
    intro w kind' handler hfind
    simp only [register, HandlerTable.insert_find?] at hfind
    split at hfind
    · next heq => exact Or.inr (heq.1 ▸ hv)
    · exact Or.inl hfind
  exact ⟨scene.leads_perform _ hcareful, fun _ hw => hw⟩

theorem fills_others (scene : Scene K T A X) (queue : List Message) (store : X) :
    scene.Fills { scene with queue, store } :=
  ⟨scene.leads_perform (.setOthers scene.handlers queue scene.nextHandler store)
    fun _ _ _ hfind => Or.inl hfind, fun _ hv => hv⟩

theorem fills_stop (scene : Scene K T A X) (v : ViewId) : scene.Fills (scene.stop v).2 :=
  ⟨scene.leads_perform (.stop v) trivial, fun _ hv => hv⟩

end Filling

def Has (vs : List ViewId) (scene : Scene K T A X) : Prop := ∀ v ∈ vs, v ∈ scene.tree.kinds

/--
The action makes careful requests only, as long as the views that it knows are in the tree. If it
comes to its end, then those that it has learned are.
-/
def Careful (known : List ViewId) (action : EStateM ε (Scene K T A X) α)
    (learned : α → List ViewId) : Prop :=
  ∀ scene, scene.Has known →
    Ends action scene (fun result after => scene.Leads after ∧ after.Has (learned result))
      fun _ after => scene.Leads after

section Closure

variable {β : Type} {known : List ViewId} {action : EStateM ε (Scene K T A X) α}
  {learned : α → List ViewId}

theorem careful_pure {result : α} (h : learned result ⊆ known) :
    Careful known (pure result : EStateM ε (Scene K T A X) α) learned :=
  fun _ hknown => Ends.pure ⟨.refl, fun v hv => hknown v (h hv)⟩

theorem Careful.bind {next : α → EStateM ε (Scene K T A X) β} {final : β → List ViewId}
    (h : Careful known action learned)
    (hnext : ∀ result, Careful (learned result) (next result) final) :
    Careful known (action >>= next) final := by
  intro scene hknown
  apply Ends.bind
  apply (h scene hknown).mono
  · intro result middle hmiddle
    apply (hnext result middle hmiddle.2).mono
    · exact fun _ after hafter => ⟨hmiddle.1.trans hafter.1, hafter.2⟩
    · exact fun _ after hafter => hmiddle.1.trans hafter
  · exact fun _ after hafter => hafter

theorem careful_get_bind {next : Scene K T A X → EStateM ε (Scene K T A X) α}
    (hnext : ∀ scene, Careful known (next scene) learned) :
    Careful known (get >>= next) learned :=
  fun scene hknown => Ends.get_bind (hnext scene scene hknown)

theorem careful_modifyGet {f : Scene K T A X → α × Scene K T A X}
    (hf : ∀ scene : Scene K T A X, scene.Has known → scene.Fills (f scene).2) :
    Careful known (modifyGet f : EStateM ε (Scene K T A X) α) fun _ => known := by
  intro scene hknown
  have hfills := hf scene hknown
  exact ⟨hfills.leads, fun v hv => hfills.keeps v (hknown v hv)⟩

theorem careful_modify {f : Scene K T A X → Scene K T A X}
    (hf : ∀ scene : Scene K T A X, scene.Has known → scene.Fills (f scene)) :
    Careful known (modify f : EStateM ε (Scene K T A X) Unit) fun _ => known :=
  careful_modifyGet hf

theorem Careful.adaptExcept {ε' : Type} (h : Careful known action learned) (f : ε → ε') :
    Careful known (EStateM.adaptExcept f action) learned :=
  fun scene hknown => Ends.adaptExcept (h scene hknown)

theorem Careful.settle_of_has {scene : Scene K T A X} (h : Careful known action learned)
    (hknown : scene.Has known) : scene.Leads (settle action scene) := by
  apply settle_of_ends
  apply (h scene hknown).mono
  · exact fun _ _ hafter => hafter.1
  · exact fun _ _ hafter => hafter

theorem Careful.settle (h : Careful [] action learned) (scene : Scene K T A X) :
    scene.Leads (settle action scene) :=
  h.settle_of_has (by simp [Has])

theorem Careful.modify_settle {ε' : Type} (h : Careful known action learned) :
    Careful known (modify (Scene.settle action) : EStateM ε' (Scene K T A X) Unit) fun _ => [] :=
  fun _ hknown => ⟨h.settle_of_has hknown, by simp [Has]⟩

theorem Careful.leads_of_ok {scene after : Scene K T A X} {result : α}
    (h : Careful [] action learned) (heq : action scene = .ok result after) : scene.Leads after :=
  ((h scene (by simp [Has])).of_eq heq).1

theorem careful_of_settle {kept : List ViewId}
    (h : ∀ scene : Scene K T A X, scene.Has known →
      scene.Leads (Scene.settle action scene) ∧ (Scene.settle action scene).Has kept) :
    Careful known action fun _ => kept := by
  intro scene hknown
  have hsettled := h scene hknown
  unfold Ends
  unfold Scene.settle at hsettled
  cases haction : action scene with
  | ok result after =>
    rw [haction] at hsettled
    exact hsettled
  | error e after =>
    rw [haction] at hsettled
    exact hsettled.1

theorem careful_of_fills (h : ∀ scene : Scene K T A X, scene.Fills (Scene.settle action scene)) :
    Careful known action fun _ => known :=
  careful_of_settle fun scene hknown =>
    ⟨(h scene).leads, fun v hv => (h scene).keeps v (hknown v hv)⟩

theorem careful_of_leads (h : ∀ scene : Scene K T A X, scene.Leads (Scene.settle action scene)) :
    Careful known action fun _ => [] :=
  careful_of_settle fun scene _ => ⟨h scene, by simp [Has]⟩

end Closure

section Operations

variable (known : List ViewId)

theorem careful_onTree {layout : EStateM ε (ViewTree K) α} (h : Layout.Relays layout) :
    Careful known (onTree layout : EStateM ε (Scene K T A X) α) fun _ => known := by
  apply careful_of_fills
  intro scene
  apply settle_of_ends
  apply onTree_ends
  apply (h scene.tree).mono
  · exact fun _ _ hrelaid => fills_relaid hrelaid
  · exact fun _ _ hrelaid => fills_relaid hrelaid

theorem careful_add (parent : ViewId) (kind : ViewKind K) :
    Careful known (add parent kind : EStateM ViewError (Scene K T A X) ViewId)
      fun v => v :: known := by
  intro scene hknown
  have hfills : scene.Fills (scene.perform (.onTree (.insert parent kind))) :=
    fills_onTree (by simp) (by simp)
  unfold Ends add
  dsimp only
  cases hinsert : scene.tree.insert parent kind scene.names.take.1 with
  | error e => exact .refl
  | ok tree =>
    have hperform : scene.perform (.onTree (.insert parent kind)) =
        { scene with tree, names := scene.names.take.2 } := by
      unfold perform NamedTree.perform
      dsimp only [named]
      rw [show scene.names.upcoming = scene.names.take.1 from rfl, hinsert]
    rw [hperform] at hfills
    refine ⟨hfills.leads, ?_⟩
    intro v hv
    rw [List.mem_cons] at hv
    cases hv with
    | inl hv =>
      rw [ViewTree.insert_eq_ok_iff] at hinsert
      rw [hinsert.2, ViewTree.attach_mem_kinds]
      exact Or.inl hv.symm
    | inr hv => exact hfills.keeps v (hknown v hv)

theorem careful_setGroup (v : ViewId) (group : Nat) :
    Careful known (setGroup v group : EStateM ViewError (Scene K T A X) Unit)
      fun _ => known := by
  apply careful_of_fills
  intro scene
  have hperform :
      settle (setGroup v group) scene = scene.perform (.onTree (.setGroup v group)) := by
    unfold settle setGroup perform NamedTree.perform
    dsimp only [named]
    cases scene.tree.setGroup v group <;> rfl
  rw [hperform]
  apply fills_onTree (by simp) (by simp)

theorem careful_register {v : ViewId} (hv : v ∈ known) (kind : EventKind) (code : A) :
    Careful known (modify (register v kind code) : EStateM ε (Scene K T A X) Unit)
      fun _ => known :=
  careful_modify fun _ hknown => fills_register (hknown v hv) kind code

theorem careful_start (v : ViewId) (destination : Rect K) (duration : Duration) :
    Careful known (start v destination duration : EStateM (MotionError K) (Scene K T A X) Unit)
      fun _ => known := by
  apply careful_of_fills
  intro scene
  refine ⟨scene.leads_perform (.start v destination duration) trivial, ?_⟩
  unfold settle start
  cases scene.animator.start scene.tree v destination duration <;> exact fun _ hv => hv

theorem careful_remove (v : ViewId) :
    Careful known (remove v : EStateM ViewError (Scene K T A X) Unit) fun _ => [] :=
  careful_of_leads fun scene => scene.leads_perform (.remove v) trivial

end Operations

end Scene

end ViewMotion
