import ViewMotion.Proofs.Scene.Removal

/-!
This module contains the requests to a scene that spare a view. As long as the view stays in the
tree they leave its motion and its bounds alone.
-/

namespace ViewMotion

variable {K T A X : Type}

def SceneRequest.spares (v : ViewId) : SceneRequest K T A X → Bool
  | .start w _ _ | .startDefault w _ | .stop w | .onTree (.place w _) => w != v
  | .stopAll => false
  | _ => true

structure Scene.AlikeFor (v : ViewId) (scene after : Scene K T A X) : Prop where
  motion?_eq : after.animator.motion? v = scene.animator.motion? v
  bounds?_eq : after.tree.bounds? v = scene.tree.bounds? v

theorem Scene.AlikeFor.trans {v : ViewId} {scene next after : Scene K T A X}
    (h : AlikeFor v scene next) (h' : AlikeFor v next after) : AlikeFor v scene after :=
  ⟨h'.motion?_eq.trans h.motion?_eq, h'.bounds?_eq.trans h.bounds?_eq⟩

variable [Scalar K] {v : ViewId}

theorem NamedTree.perform_bounds? {state : NamedTree K} (h : state.Sound)
    {request : TreeRequest K} (hspares : ∀ w bounds, request = .place w bounds → w ≠ v)
    (hv : v ∈ state.tree.kinds) (hleft : v ∈ (state.perform request).tree.kinds) :
    (state.perform request).tree.bounds? v = state.tree.bounds? v := by
  cases request with
  | insert parent kind =>
    unfold perform
    dsimp only
    split
    · next tree hinsert =>
      rw [ViewTree.insert_eq_ok_iff] at hinsert
      rw [hinsert.2, ViewTree.attach_bounds?, if_neg]
      intro heq
      apply state.names.upcoming_not_issued (h.issued (heq ▸ hv))
    · rfl
  | remove w =>
    unfold perform at hleft ⊢
    dsimp only at hleft ⊢
    split at hleft
    · next tree hremove =>
      rcases h.wellFormed.remove_pruned hremove with ⟨p, gone, -, hpruned, -⟩
      rw [hpruned.bounds?_eq, if_neg ((hpruned.mem_kinds v).mp hleft).1]
    · rfl
  | clear w =>
    unfold perform at hleft ⊢
    dsimp only at hleft ⊢
    split at hleft
    · next tree hclear =>
      rcases h.wellFormed.clear_pruned hclear with ⟨gone, hpruned, -⟩
      rw [hpruned.bounds?_eq, if_neg ((hpruned.mem_kinds v).mp hleft).1]
    · rfl
  | place w bounds =>
    unfold perform
    rw [ViewTree.place_bounds?, if_neg (hspares w bounds rfl)]
  | modifyKind w change =>
    unfold perform
    dsimp only
    cases hmodify : state.tree.modifyKind? w change with
    | none => rfl
    | some tree =>
      rcases ViewTree.modifyKind?_effect hmodify with ⟨-, -, hbounds, -⟩
      apply congrArg (fun bounds => bounds[v]?) hbounds
  | setGroup w group =>
    unfold perform
    dsimp only
    split
    · next tree hset =>
      rw [ViewTree.setGroup_eq_ok_iff] at hset
      rw [hset.2]
      rfl
    · rfl
  | takeDamaged => rfl
  | takeUnarranged => rfl
  | takeName => rfl

namespace Scene

variable [Clock T] {scene : Scene K T A X}

theorem remove_alikeFor (h : scene.tree.WellFormed) (w : ViewId)
    (hleft : v ∈ (scene.perform (.remove w)).tree.kinds) :
    AlikeFor v scene (scene.perform (.remove w)) := by
  unfold perform settle at hleft ⊢
  dsimp only at hleft ⊢
  cases hremove : scene.tree.remove w with
  | error e =>
    rw [remove_error hremove]
    exact ⟨rfl, rfl⟩
  | ok tree =>
    rcases h.collect?_eq w with ⟨ids, hlength, -, hmem, hcollect⟩
    have hids : scene.tree.collect? (scene.tree.size + 1) [w] = some ids := by
      rw [hcollect, if_pos]
      omega
    rcases h.remove_pruned hremove with ⟨p, gone, -, hpruned, hgone⟩
    rw [remove_ok hremove hids] at hleft ⊢
    dsimp only at hleft ⊢
    rw [foldl_release_tree, hpruned.mem_kinds, hgone, ← hmem] at hleft
    constructor
    · rw [foldl_release_motion?, if_neg hleft.1]
    · rw [foldl_release_tree, hpruned.bounds?_eq, if_neg]
      rw [hgone, ← hmem]
      apply hleft.1

theorem removes_alikeFor (h : scene.named.Sound) (ws : List ViewId)
    (hleft : v ∈ (scene.run (ws.map .remove)).tree.kinds) :
    v ∈ scene.tree.kinds ∧ AlikeFor v scene (scene.run (ws.map .remove)) := by
  induction ws generalizing scene with
  | nil => exact ⟨hleft, rfl, rfl⟩
  | cons w ws ih =>
    have hnext := perform_sound h (.remove w)
    have hformed : scene.tree.WellFormed := h.wellFormed
    have hformed' : (scene.perform (.remove w)).tree.WellFormed := hnext.wellFormed
    rcases ih hnext hleft with ⟨hmem, halike⟩
    have hfirst := remove_alikeFor hformed w hmem
    refine ⟨?_, hfirst.trans halike⟩
    rw [← hformed'.placed_iff_mem, hfirst.bounds?_eq, hformed.placed_iff_mem] at hmem
    exact hmem

theorem start_alikeFor {w : ViewId} (hw : w ≠ v) (destination : Rect K) (duration : Duration) :
    AlikeFor v scene (scene.perform (.start w destination duration)) := by
  unfold perform settle start
  dsimp only
  cases hstart : scene.animator.start scene.tree w destination duration with
  | error e => exact ⟨rfl, rfl⟩
  | ok animator =>
    rcases Animator.start_motion? hstart v with ⟨departure, -, hmotion⟩
    rw [if_neg hw] at hmotion
    exact ⟨hmotion, rfl⟩

theorem perform_alikeFor (h : scene.named.Sound) {request : SceneRequest K T A X}
    (hspares : request.spares v) (hframe : ∀ now, request ≠ .frame now)
    (hv : v ∈ scene.tree.kinds) (hleft : v ∈ (scene.perform request).tree.kinds) :
    AlikeFor v scene (scene.perform request) := by
  cases request with
  | onTree request =>
    refine ⟨rfl, NamedTree.perform_bounds? h ?_ hv hleft⟩
    intro w bounds heq
    subst heq
    apply bne_iff_ne.mp hspares
  | remove w => apply remove_alikeFor h.wellFormed w hleft
  | clear w =>
    rcases clear_eq_run w scene with ⟨us, -, hrun⟩
    rw [hrun] at hleft ⊢
    exact (removes_alikeFor h us hleft).2
  | start w destination duration =>
    apply start_alikeFor (bne_iff_ne.mp hspares) destination duration
  | startDefault w destination =>
    apply start_alikeFor (bne_iff_ne.mp hspares) destination scene.animator.defaults.duration
  | stop w =>
    refine ⟨?_, rfl⟩
    have hstop := scene.animator.stop_motion? w v
    rw [if_neg (bne_iff_ne.mp hspares)] at hstop
    exact hstop
  | stopAll => contradiction
  | frame now => exact absurd rfl (hframe now)
  | setDefaults defaults => exact ⟨rfl, rfl⟩
  | setClock clock => exact ⟨rfl, rfl⟩
  | setOthers handlers queue nextHandler store => exact ⟨rfl, rfl⟩

end Scene

end ViewMotion
