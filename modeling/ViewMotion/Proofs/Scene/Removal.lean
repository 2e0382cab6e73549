import ViewMotion.Proofs.ExactScalar
import ViewMotion.Proofs.Motion.Subscription
import ViewMotion.Proofs.Scene.History

/-!
This module contains what becomes of the views that are removed from a scene, and of everything that
is kept for them: the views that are collected beforehand are the ones that the tree forgets.
-/

namespace ViewMotion.Scene

variable {K T A X : Type} [Clock T]

section Release

variable (ids : List ViewId) (scene : Scene K T A X)

theorem foldl_release_tree : (ids.foldl release scene).tree = scene.tree :=
  congrArg NamedTree.tree (foldl_release_named ids scene)

theorem foldl_release_find? (w : ViewId) (kind : EventKind) :
    (ids.foldl release scene).handlers.find? w kind =
      if w ∈ ids then none else scene.handlers.find? w kind := by
  induction ids generalizing scene with
  | nil => simp
  | cons v ids ih =>
    have hfirst : (scene.release v).handlers.find? w kind =
        if w = v then none else scene.handlers.find? w kind := by
      apply HandlerTable.eraseView_find?
    rw [List.foldl_cons, ih, hfirst]
    by_cases hw : w ∈ ids
    · simp [hw]
    · simp [hw]

theorem foldl_release_motion? (w : ViewId) :
    (ids.foldl release scene).animator.motion? w =
      if w ∈ ids then none else scene.animator.motion? w := by
  induction ids generalizing scene with
  | nil => simp
  | cons v ids ih =>
    have hfirst : (scene.release v).animator.motion? w =
        if v = w then none else scene.animator.motion? w := by
      apply Animator.stop_motion?
    rw [List.foldl_cons, ih, hfirst]
    by_cases hw : w ∈ ids
    · simp [hw]
    · simp [hw, eq_comm]

theorem foldl_release_inStep [LawfulClock T] {scene : Scene K T A X}
    (h : scene.animator.InStep) : (ids.foldl release scene).animator.InStep := by
  induction ids generalizing scene with
  | nil => exact h
  | cons v ids ih =>
    rw [List.foldl_cons]
    apply ih
    apply h.stop

end Release

theorem remove_error {scene : Scene K T A X} {v : ViewId} {e : ViewError}
    (h : scene.tree.remove v = .error e) : remove v scene = .error e scene := by
  unfold remove
  rw [h]

theorem remove_ok {scene : Scene K T A X} {v : ViewId} {tree : ViewTree K} {ids : List ViewId}
    (h : scene.tree.remove v = .ok tree)
    (hids : scene.tree.collect? (scene.tree.size + 1) [v] = some ids) :
    remove v scene = .ok () (ids.foldl release { scene with tree }) := by
  unfold remove
  rw [h, hids]
  rfl

theorem remove_cleans_up [Scalar K] [LawfulClock T] {scene : Scene K T A X} (h : scene.Reachable)
    (v : ViewId) :
    ∃ ids, (∀ limit, scene.tree.size < limit → scene.tree.collect? limit [v] = some ids) ∧
      match scene.tree.remove v with
      | .error e => remove v scene = .error e scene
      | .ok tree =>
        ids.Nodup ∧ (∀ w, w ∈ ids ↔ scene.tree.Encloses v w) ∧
          (∀ w, w ∈ ids ↔ scene.tree.contains w ∧ ¬ tree.contains w) ∧
          ∃ after, remove v scene = .ok () after ∧ after.tree = tree ∧
            (∀ w ∈ ids, after.animator.motion? w = none ∧
              ∀ kind, after.handlers.find? w kind = none) ∧
            (∀ w, w ∉ ids → after.animator.motion? w = scene.animator.motion? w ∧
              ∀ kind, after.handlers.find? w kind = scene.handlers.find? w kind) ∧
            (scene.animator.InStep → after.animator.InStep) := by
  have hformed := h.wellFormed
  rcases hformed.collect?_eq v with ⟨ids, hlength, hnodup, hmem, hcollect⟩
  refine ⟨ids, ?_, ?_⟩
  · intro limit hlimit
    rw [hcollect, if_pos]
    omega
  · cases hremove : scene.tree.remove v with
    | error e => apply remove_error hremove
    | ok tree =>
      have hids : scene.tree.collect? (scene.tree.size + 1) [v] = some ids := by
        rw [hcollect, if_pos]
        omega
      rcases hformed.remove_pruned hremove with ⟨p, gone, hp, hpruned, hgone⟩
      refine ⟨hnodup, hmem, ?_, _, remove_ok hremove hids, ?_, ?_, ?_, ?_⟩
      · intro w
        rw [ViewTree.contains_iff_mem, ViewTree.contains_iff_mem, hpruned.mem_kinds, hgone,
          ← hmem]
        constructor
        · intro hw
          refine ⟨?_, fun hleft => hleft.1 hw⟩
          apply hformed.mem_of_encloses (hformed.mem_of_superview hp) ((hmem w).mp hw)
        · intro hw
          by_contra hnot
          apply hw.2 ⟨hnot, hw.1⟩
      · apply foldl_release_tree
      · intro w hw
        refine ⟨?_, fun kind => ?_⟩
        · rw [foldl_release_motion?, if_pos hw]
        · rw [foldl_release_find?, if_pos hw]
      · intro w hw
        refine ⟨?_, fun kind => ?_⟩
        · rw [foldl_release_motion?, if_neg hw]
        · rw [foldl_release_find?, if_neg hw]
      · intro hstep
        exact foldl_release_inStep ids hstep

theorem remove_cleans_up_nested :
    let scene : Scene Rat ManualClock Unit Unit := (new .counted .atEpoch {} ()).run [
      .onTree (.insert ⟨0⟩ .container),
      .onTree (.insert ⟨1⟩ .container),
      .start ⟨2⟩ (.ofXYWH 0 0 10 10) (.ofSeconds 1 0)
    ]
    scene.animator.isMoving ⟨2⟩ ∧
      ∃ tree after, scene.tree.remove ⟨1⟩ = .ok tree ∧ remove ⟨1⟩ scene = .ok () after ∧
        after.tree = tree ∧ ¬ tree.contains ⟨2⟩ ∧ after.animator.motion? ⟨2⟩ = none := by
  intro scene
  have hreachable : scene.Reachable := ⟨.counted, .atEpoch, {}, (), _, rfl⟩
  have hclean := remove_cleans_up hreachable ⟨1⟩
  have hmoving : scene.animator.isMoving ⟨2⟩ := by decide +kernel
  have henc : scene.tree.Encloses ⟨1⟩ ⟨2⟩ := by
    apply Relation.ReflTransGen.single
    decide +kernel
  refine ⟨hmoving, ?_⟩
  rcases hclean with ⟨ids, -, hclean⟩
  cases hremove : scene.tree.remove ⟨1⟩ with
  | error e =>
    have hok : (scene.tree.remove ⟨1⟩).isOk := by decide +kernel
    rw [hremove] at hok
    contradiction
  | ok tree =>
    rw [hremove] at hclean
    rcases hclean with ⟨-, hmem, hgone, after, hafter, htree, hnothing, -⟩
    have hids : (⟨2⟩ : ViewId) ∈ ids := (hmem ⟨2⟩).mpr henc
    exact ⟨tree, after, rfl, hafter, htree, ((hgone ⟨2⟩).mp hids).2, (hnothing ⟨2⟩ hids).1⟩

end ViewMotion.Scene
