import Mathlib.Logic.Relation
import ViewMotion.Proofs.Scene.Growth
import ViewMotion.Proofs.Scene.Removal
import ViewMotion.Proofs.ViewTree.Traversal

/-!
This module contains what is left of a scene once views have been taken out of it, one subtree after
another.
-/

namespace ViewMotion

variable {K : Type}

namespace ViewTree.WellFormed

variable {tree : ViewTree K}

theorem encloses_total (h : tree.WellFormed) {u v w : ViewId} (hu : tree.Encloses u w)
    (hv : tree.Encloses v w) : tree.Encloses u v ∨ tree.Encloses v u := by
  rw [h.encloses_iff] at hu hv
  rw [h.encloses_iff, h.encloses_iff, or_comm]
  apply Relation.ReflTransGen.total_of_right_unique _ hu hv
  intro x p q hp hq
  rw [hp] at hq
  injection hq

end ViewTree.WellFormed

theorem ViewTree.Apart.symm {tree : ViewTree K} {v w : ViewId} (h : tree.Apart v w) :
    tree.Apart w v :=
  ⟨h.2, h.1⟩

namespace Scene

variable {T A X : Type}

/--
The scene is the same as before but for the views that are `gone`. Nothing is kept for them.
-/
structure Without (gone : List ViewId) (scene after : Scene K T A X) : Prop where
  sound : after.named.Sound
  root_eq : after.tree.root = scene.tree.root
  kind?_eq (v : ViewId) : after.tree.kind? v = if v ∈ gone then none else scene.tree.kind? v
  bounds?_eq (v : ViewId) : after.tree.bounds? v = if v ∈ gone then none else scene.tree.bounds? v
  group?_eq (v : ViewId) : after.tree.group? v = if v ∈ gone then none else scene.tree.group? v
  subviews_eq (p : ViewId) :
    after.tree.subviews p = if p ∈ gone then [] else (scene.tree.subviews p).filter (· ∉ gone)
  find?_eq (v : ViewId) (kind : EventKind) :
    after.handlers.find? v kind = if v ∈ gone then none else scene.handlers.find? v kind
  motion?_eq (v : ViewId) :
    after.animator.motion? v = if v ∈ gone then none else scene.animator.motion? v
  names_eq : after.names = scene.names
  store_eq : after.store = scene.store

namespace Without

variable {scene next after : Scene K T A X} {gone others : List ViewId}

theorem refl (h : scene.named.Sound) : Without [] scene scene where
  sound := h
  root_eq := rfl
  kind?_eq _ := rfl
  bounds?_eq _ := rfl
  group?_eq _ := rfl
  subviews_eq p := by simp
  find?_eq _ _ := rfl
  motion?_eq _ := rfl
  names_eq := rfl
  store_eq := rfl

theorem ite_append {β : Type} (v : ViewId) (x y : β) :
    (if v ∈ others then x else if v ∈ gone then x else y) =
      if v ∈ gone ++ others then x else y := by
  by_cases hgone : v ∈ gone <;> by_cases hothers : v ∈ others <;> simp [hgone, hothers]

theorem trans (h : Without gone scene next) (h' : Without others next after) :
    Without (gone ++ others) scene after where
  sound := h'.sound
  root_eq := h'.root_eq.trans h.root_eq
  kind?_eq v := by rw [h'.kind?_eq, h.kind?_eq, ite_append]
  bounds?_eq v := by rw [h'.bounds?_eq, h.bounds?_eq, ite_append]
  group?_eq v := by rw [h'.group?_eq, h.group?_eq, ite_append]
  subviews_eq p := by
    have hfilter (vs : List ViewId) : (vs.filter (· ∉ gone)).filter (· ∉ others) =
        vs.filter (· ∉ gone ++ others) := by
      rw [List.filter_filter]
      apply List.filter_congr
      intro v _
      simp [Bool.and_comm]
    rw [h'.subviews_eq, h.subviews_eq, ← ite_append, ← hfilter]
    split
    · rfl
    · split <;> rfl
  find?_eq v kind := by rw [h'.find?_eq, h.find?_eq, ite_append]
  motion?_eq v := by rw [h'.motion?_eq, h.motion?_eq, ite_append]
  names_eq := h'.names_eq.trans h.names_eq
  store_eq := h'.store_eq.trans h.store_eq

theorem mem_kinds (h : Without gone scene after) (v : ViewId) :
    v ∈ after.tree.kinds ↔ v ∉ gone ∧ v ∈ scene.tree.kinds := by
  rw [ViewTree.mem_kinds_iff_isSome, ViewTree.mem_kinds_iff_isSome, h.kind?_eq]
  split
  · next hv => simp [hv]
  · next hv => simp [hv]

theorem subviews_subset (h : Without gone scene after) (p : ViewId) :
    after.tree.subviews p ⊆ scene.tree.subviews p := by
  rw [h.subviews_eq]
  split
  · apply List.nil_subset
  · apply List.filter_subset_self

theorem of_isMoving (h : Without gone scene after) {v : ViewId} (hv : after.animator.isMoving v) :
    v ∉ gone ∧ scene.animator.isMoving v := by
  rw [Animator.isMoving_eq_isSome, h.motion?_eq] at hv
  rw [Animator.isMoving_eq_isSome]
  split at hv
  · contradiction
  · next hnot => exact ⟨hnot, hv⟩

theorem tidy (h : Without gone scene after) (htidy : scene.Tidy) : after.Tidy where
  sound := h.sound
  find?_eq_none {v} hv kind := by
    rw [h.names_eq] at hv
    rw [h.find?_eq, htidy.find?_eq_none hv, ite_self]
  motion?_eq_none {v} hv := by
    rw [h.names_eq] at hv
    rw [h.motion?_eq, htidy.motion?_eq_none hv, ite_self]

theorem extends_prune (h : Without gone scene after) {base : NamedTree K}
    {added : List (ViewId × ViewId)} (hbase : base.Extends added scene.named)
    (hgone : ∀ v ∈ gone, v ∈ added.map Prod.fst)
    (hdown : ∀ p ∈ gone, ∀ v ∈ scene.tree.subviews p, v ∈ gone) :
    base.Extends (added.filter (·.1 ∉ gone)) after.named := by
  have hnamed : after.named = { scene.named with tree := after.tree } := by
    unfold named
    rw [h.names_eq]
  have hsound := h.sound
  rw [hnamed] at hsound ⊢
  exact hbase.prune hsound h.root_eq h.kind?_eq h.group?_eq h.subviews_eq hgone hdown

/--
Below views that are apart from those that are gone, everything is as before.
-/
theorem encloses_iff (h : Without gone scene after) (hsound : scene.named.Sound) {v : ViewId}
    (hgone : ∀ w, w ∈ gone ↔ scene.tree.Encloses v w) {u : ViewId}
    (hapart : scene.tree.Apart u v) (w : ViewId) :
    after.tree.Encloses u w ↔ scene.tree.Encloses u w := by
  constructor
  · apply ViewTree.Encloses.mono h.subviews_subset
  · have hleft {x : ViewId} (hx : scene.tree.Encloses u x) : x ∉ gone := by
      rw [hgone]
      intro hvx
      cases hsound.wellFormed.encloses_total hx hvx with
      | inl henc => apply hapart.1 henc
      | inr henc => apply hapart.2 henc
    intro henc
    induction henc with
    | refl => exact .refl
    | @tail x y hx hy ih =>
      apply ih.tail
      rw [h.subviews_eq, if_neg (hleft hx), List.mem_filter, decide_eq_true_iff]
      exact ⟨hy, hleft (hx.tail hy)⟩

end Without

variable [Clock T]

theorem foldl_release_store (ids : List ViewId) (scene : Scene K T A X) :
    (ids.foldl release scene).store = scene.store := by
  induction ids generalizing scene with
  | nil => rfl
  | cons v ids ih => exact ih (scene.release v)

variable [Scalar K] {scene : Scene K T A X}

theorem exists_remove (h : scene.named.Sound) {v : ViewId} (hv : v ∈ scene.tree.kinds)
    (hroot : v ≠ scene.tree.root) :
    ∃ gone after, remove v scene = .ok () after ∧ (∀ w, w ∈ gone ↔ scene.tree.Encloses v w) ∧
      Without gone scene after := by
  have hformed : scene.tree.WellFormed := h.wellFormed
  have hremove : scene.tree.remove v = .ok ((scene.tree.detach v).forgetSubtree v) := by
    unfold ViewTree.remove
    rw [if_neg hroot, if_pos (ViewTree.contains_iff_mem.mpr hv)]
  rcases hformed.collect?_eq v with ⟨gone, hlength, -, hmem, hcollect⟩
  have hids : scene.tree.collect? (scene.tree.size + 1) [v] = some gone := by
    rw [hcollect, if_pos]
    omega
  rcases hformed.remove_pruned hremove with ⟨p, forgotten, -, hpruned, hforgotten⟩
  have hpruned := hpruned.congr fun w => (hmem w).trans (hforgotten w).symm
  have hafter := remove_ok hremove hids
  have hsound := perform_sound h (.remove v)
  unfold perform settle at hsound
  dsimp only at hsound
  rw [hafter] at hsound
  refine ⟨gone, _, hafter, hmem, ?_⟩
  have htree := foldl_release_tree gone
    { scene with tree := (scene.tree.detach v).forgetSubtree v }
  constructor
  case sound => exact hsound
  case root_eq =>
    rw [htree]
    exact hpruned.root_eq
  case kind?_eq =>
    rw [htree]
    exact hpruned.kind?_eq
  case bounds?_eq =>
    rw [htree]
    exact hpruned.bounds?_eq
  case group?_eq =>
    rw [htree]
    exact hpruned.group?_eq
  case subviews_eq =>
    rw [htree]
    exact hpruned.subviews_eq
  case find?_eq => exact fun w kind => foldl_release_find? gone _ w kind
  case motion?_eq => exact fun w => foldl_release_motion? gone _ w
  case names_eq =>
    exact congrArg NamedTree.names (foldl_release_named gone
      { scene with tree := (scene.tree.detach v).forgetSubtree v })
  case store_eq => apply foldl_release_store

/--
A removal that is refused takes nothing out.
-/
theorem exists_without_remove (h : scene.named.Sound) (v : ViewId) :
    ∃ gone, Without gone scene (settle (remove v) scene) := by
  by_cases hv : v ∈ scene.tree.kinds ∧ v ≠ scene.tree.root
  · obtain ⟨gone, after, hremove, -, hwithout⟩ := exists_remove h hv.1 hv.2
    rw [settle, hremove]
    exact ⟨gone, hwithout⟩
  · have hrefused : settle (remove v) scene = scene := by
      rw [not_and, not_not] at hv
      unfold settle remove ViewTree.remove
      by_cases hroot : v = scene.tree.root
      · simp [hroot]
      · have hmissing : ¬ scene.tree.contains v := fun hcontains =>
          hroot (hv (ViewTree.contains_iff_mem.mp hcontains))
        simp [hroot, hmissing]
    rw [hrefused]
    exact ⟨[], .refl h⟩

theorem exists_remove_added {base : NamedTree K} {added : List (ViewId × ViewId)}
    (h : base.Extends added scene.named) {v : ViewId} (hv : v ∈ added.map Prod.fst) :
    ∃ gone after, remove v scene = .ok () after ∧ (∀ w, w ∈ gone ↔ scene.tree.Encloses v w) ∧
      Without gone scene after ∧ base.Extends (added.filter (·.1 ∉ gone)) after.named := by
  obtain ⟨gone, after, hremove, hgone, hwithout⟩ :=
    exists_remove h.sound (h.mem_of_added hv) (h.ne_root hv)
  refine ⟨gone, after, hremove, hgone, hwithout, ?_⟩
  apply hwithout.extends_prune h
  · intro w hw
    apply h.encloses_added hv ((hgone w).mp hw)
  · intro p hp w hw
    exact (hgone w).mpr (((hgone p).mp hp).tail hw)

theorem exists_forM_remove (h : scene.named.Sound) {vs : List ViewId}
    (hvs : ∀ v ∈ vs, v ∈ scene.tree.kinds ∧ v ≠ scene.tree.root)
    (hapart : vs.Pairwise scene.tree.Apart) :
    ∃ gone after, vs.forM remove scene = .ok () after ∧
      (∀ w, w ∈ gone ↔ ∃ v ∈ vs, scene.tree.Encloses v w) ∧ Without gone scene after := by
  induction vs generalizing scene with
  | nil => exact ⟨[], scene, rfl, by simp, .refl h⟩
  | cons v vs ih =>
    rw [List.pairwise_cons] at hapart
    have hv := hvs v List.mem_cons_self
    obtain ⟨first, next, hremove, hfirst, hnext⟩ := exists_remove h hv.1 hv.2
    have halike {u : ViewId} (hu : u ∈ vs) (w : ViewId) :
        next.tree.Encloses u w ↔ scene.tree.Encloses u w :=
      hnext.encloses_iff h hfirst (hapart.1 u hu).symm w
    obtain ⟨others, after, hforM, hothers, hafter⟩ := ih hnext.sound
      (by
        intro u hu
        have hmem := hvs u (List.mem_cons_of_mem v hu)
        rw [hnext.mem_kinds, hnext.root_eq, hfirst]
        exact ⟨⟨(hapart.1 u hu).1, hmem.1⟩, hmem.2⟩)
      (by
        apply hapart.2.imp_of_mem
        intro u w hu hw hne
        exact ⟨fun henc => hne.1 ((halike hu w).mp henc),
          fun henc => hne.2 ((halike hw u).mp henc)⟩)
    refine ⟨first ++ others, after, ?_, ?_, hnext.trans hafter⟩
    · change EStateM.bind (remove v) (fun _ => vs.forM remove) scene = _
      unfold EStateM.bind
      rw [hremove]
      exact hforM
    · intro w
      rw [List.mem_append, hfirst, hothers, List.exists_mem_cons_iff]
      apply or_congr_right
      constructor
      · intro ⟨u, hu, henc⟩
        exact ⟨u, hu, (halike hu w).mp henc⟩
      · intro ⟨u, hu, henc⟩
        exact ⟨u, hu, (halike hu w).mpr henc⟩

theorem exists_clear (h : scene.named.Sound) (v : ViewId) :
    ∃ gone after, clear v scene = .ok () after ∧
      (∀ w, w ∈ gone ↔ ∃ u ∈ scene.tree.subviews v, scene.tree.Encloses u w) ∧
      Without gone scene after := by
  have hformed : scene.tree.WellFormed := h.wellFormed
  apply exists_forM_remove h
  · intro u hu
    have hsuper := hformed.superview_of_mem hu
    refine ⟨hformed.mem_of_superview hsuper, ?_⟩
    intro heq
    rw [heq, hformed.superview_root] at hsuper
    contradiction
  · apply List.Pairwise.imp_of_mem _ (hformed.subviews_nodup v)
    intro u w hu hw hne
    exact hformed.subviews_apart hu hw hne

end Scene

end ViewMotion
