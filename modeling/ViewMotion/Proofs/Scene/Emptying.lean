import ViewMotion.Clock.Manual
import ViewMotion.Proofs.ExactScalar
import ViewMotion.Proofs.Scene.Clearing
import ViewMotion.Proofs.ViewTree.Deletion

/-!
This module contains what becomes of a scene when all that lies below a view is taken out of it. The
subviews are removed one after the other, and this comes to the same as removing them all at once
from the tree.
-/

namespace ViewMotion

variable {K : Type}

namespace ViewTree.WellFormed

variable {tree tree' : ViewTree K}

theorem getElem?_subviewLists (h : tree.WellFormed) (v : ViewId) :
    tree.subviewLists[v]? = (tree.kind? v).map fun _ => tree.subviews v := by
  have hmem := h.mem_subviewLists v
  rw [mem_kinds_iff_isSome, Std.ExtTreeMap.mem_iff_isSome_getElem?] at hmem
  unfold subviews
  cases hlist : tree.subviewLists[v]? with
  | none =>
    rw [hlist] at hmem
    rw [Option.not_isSome_iff_eq_none.mp (mt hmem.mpr Bool.false_ne_true)]
    rfl
  | some vs =>
    rw [hlist] at hmem
    rcases Option.isSome_iff_exists.mp (hmem.mp rfl) with ⟨kind, hkind⟩
    rw [hkind]
    rfl

/--
There is nothing more to a tree than what it tells of its views, and the marks.
-/
theorem eq_of_same_views (h : tree.WellFormed) (h' : tree'.WellFormed)
    (hroot : tree'.root = tree.root) (hkind : ∀ v, tree'.kind? v = tree.kind? v)
    (hbounds : ∀ v, tree'.bounds? v = tree.bounds? v)
    (hgroup : ∀ v, tree'.group? v = tree.group? v)
    (hlist : ∀ p, tree'.subviews p = tree.subviews p) :
    tree' = { tree with damaged := tree'.damaged, unarranged := tree'.unarranged } := by
  have hsuper (v : ViewId) : tree'.superview? v = tree.superview? v := by
    apply Option.ext
    intro p
    rw [← h'.mem_subviews_iff, ← h.mem_subviews_iff, hlist]
  have hlists (v : ViewId) : tree'.subviewLists[v]? = tree.subviewLists[v]? := by
    rw [h'.getElem?_subviewLists, h.getElem?_subviewLists, hkind, hlist]
  rw [ViewTree.mk.injEq]
  refine ⟨hroot, ?_, ?_, ?_, ?_, ?_, rfl, rfl⟩
  · exact Std.ExtTreeMap.ext_getElem? hkind
  · exact Std.ExtTreeMap.ext_getElem? hbounds
  · exact Std.ExtTreeMap.ext_getElem? hsuper
  · exact Std.ExtTreeMap.ext_getElem? hlists
  · exact Std.ExtTreeMap.ext_getElem? hgroup

end ViewTree.WellFormed

namespace Scene

variable {T A X : Type} {scene : Scene K T A X}

theorem Without.eq_of_pruned {gone : List ViewId} {after : Scene K T A X} {site : ViewId}
    {pruned : ViewTree K} (h : Without gone scene after)
    (hpruned : ViewTree.Pruned scene.tree pruned site gone) (hformed : pruned.WellFormed) :
    after.tree =
      { pruned with damaged := after.tree.damaged, unarranged := after.tree.unarranged } := by
  have hformed' : after.tree.WellFormed := h.sound.wellFormed
  apply hformed.eq_of_same_views hformed'
  · rw [h.root_eq, hpruned.root_eq]
  · intro v
    rw [h.kind?_eq, hpruned.kind?_eq]
  · intro v
    rw [h.bounds?_eq, hpruned.bounds?_eq]
  · intro v
    rw [h.group?_eq, hpruned.group?_eq]
  · intro p
    rw [h.subviews_eq, hpruned.subviews_eq]

variable [Scalar K] [Clock T]

theorem clear_eq_tree_clear (h : scene.Reachable) {v : ViewId} (hv : scene.tree.contains v) :
    ∃ (cleared : ViewTree K) (after : Scene K T A X) (gone : List ViewId),
      scene.tree.clear v = .ok cleared ∧ clear v scene = .ok () after ∧
      after.tree =
        { cleared with damaged := after.tree.damaged, unarranged := after.tree.unarranged } ∧
      (∀ w, w ∈ gone ↔ w ≠ v ∧ scene.tree.Encloses v w) ∧
      (∀ w, after.animator.motion? w = if w ∈ gone then none else scene.animator.motion? w) ∧
      ∀ w kind, after.handlers.find? w kind =
        if w ∈ gone then none else scene.handlers.find? w kind := by
  have hformed : scene.tree.WellFormed := h.wellFormed
  obtain ⟨gone, after, hclear, hgone, hwithout⟩ := exists_clear h.sound v
  have hbelow (w : ViewId) : w ∈ gone ↔ w ≠ v ∧ scene.tree.Encloses v w := by
    rw [hgone, hformed.exists_encloses_iff]
  cases hcleared : scene.tree.clear v with
  | error e => exact absurd hv (hformed.not_contains_of_clear_eq_error hcleared)
  | ok cleared =>
    have hpruned : scene.tree.Pruned cleared v gone := by
      apply (hformed.clear_deletes hcleared).congr
      intro w
      rw [hbelow, hformed.mem_descendants_iff]
    have htree := hwithout.eq_of_pruned hpruned (hformed.clear hcleared)
    exact ⟨cleared, after, gone, rfl, hclear, htree, hbelow, hwithout.motion?_eq,
      hwithout.find?_eq⟩

theorem clear_root_eq_tree_clear :
    let handlers := (∅ : HandlerTable Unit).insert ⟨2⟩ .pressed ⟨⟨0⟩, ()⟩
      |>.insert ⟨0⟩ .pressed ⟨⟨0⟩, ()⟩
    let scene : Scene Rat ManualClock Unit Unit := (new .counted .atEpoch {} ()).run [
      .onTree (.insert ⟨0⟩ .container),
      .onTree (.insert ⟨1⟩ .container),
      .onTree (.insert ⟨0⟩ .container),
      .start ⟨0⟩ (.ofXYWH 0 0 10 10) (.ofSeconds 1 0),
      .start ⟨2⟩ (.ofXYWH 0 0 10 10) (.ofSeconds 1 0),
      .setOthers handlers [] ⟨1⟩ ()
    ]
    scene.animator.isMoving ⟨2⟩ ∧ (scene.handlers.find? ⟨2⟩ .pressed).isSome ∧
      ∃ cleared after, scene.tree.clear ⟨0⟩ = .ok cleared ∧ clear ⟨0⟩ scene = .ok () after ∧
        after.tree =
          { cleared with damaged := after.tree.damaged, unarranged := after.tree.unarranged } ∧
        after.animator.motion? ⟨2⟩ = none ∧ after.handlers.find? ⟨2⟩ .pressed = none ∧
        after.animator.motion? ⟨0⟩ = scene.animator.motion? ⟨0⟩ ∧
        after.handlers.find? ⟨0⟩ .pressed = scene.handlers.find? ⟨0⟩ .pressed := by
  intro handlers scene
  have hreachable : scene.Reachable := ⟨.counted, .atEpoch, {}, (), _, rfl⟩
  have hroot : scene.tree.contains ⟨0⟩ := by decide +kernel
  obtain ⟨cleared, after, gone, hcleared, hafter, htree, hgone, hmotion, hfind⟩ :=
    clear_eq_tree_clear hreachable hroot
  have henc : scene.tree.Encloses ⟨0⟩ ⟨2⟩ := by
    apply Relation.ReflTransGen.tail (Relation.ReflTransGen.single (b := ⟨1⟩) _)
    · decide +kernel
    · decide +kernel
  have hnested : (⟨2⟩ : ViewId) ∈ gone := (hgone ⟨2⟩).mpr ⟨by decide, henc⟩
  have hkept : (⟨0⟩ : ViewId) ∉ gone := fun hmem => ((hgone ⟨0⟩).mp hmem).1 rfl
  refine ⟨by decide +kernel, by decide +kernel, cleared, after, hcleared, hafter, htree, ?_, ?_,
    ?_, ?_⟩
  · rw [hmotion, if_pos hnested]
  · rw [hfind, if_pos hnested]
  · rw [hmotion, if_neg hkept]
  · rw [hfind, if_neg hkept]

end Scene

end ViewMotion
