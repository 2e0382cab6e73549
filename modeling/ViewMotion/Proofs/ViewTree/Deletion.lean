import ViewMotion.Proofs.ViewTree.History

/-!
This module contains what is left of a tree once a view has been removed from it, or all that lies
below a view: everything about the views that are left, and nothing about those that are gone.
-/

namespace ViewMotion

variable {K : Type}

namespace ViewTree

/--
The views that are `gone` are not in the tree any more, and `left` is what is left of the list of
the `site` that they were taken from. All other lists are as before.
-/
structure Deletes (tree after : ViewTree K) (site : ViewId) (left gone : List ViewId) : Prop
    extends Pruned tree after site gone where
  nodup : gone.Nodup
  contains_iff (v : ViewId) : after.contains v ↔ v ∉ gone ∧ tree.contains v
  size_add : after.size + gone.length = tree.size
  list_eq (p : ViewId) : after.subviews p =
    if p ∈ gone then [] else if p = site then left else tree.subviews p

namespace Pruned

variable {tree tree' : ViewTree K} {site : ViewId} {gone : List ViewId}

theorem size_add (h : Pruned tree tree' site gone) (hnodup : gone.Nodup)
    (hgone : ∀ v ∈ gone, v ∈ tree.kinds) : tree'.size + gone.length = tree.size := by
  have hperm : (tree'.kinds.keys ++ gone).Perm tree.kinds.keys := by
    rw [List.perm_ext_iff_of_nodup _ Std.ExtTreeMap.nodup_keys]
    · intro v
      rw [List.mem_append, Std.ExtTreeMap.mem_keys, Std.ExtTreeMap.mem_keys, h.mem_kinds]
      by_cases hv : v ∈ gone
      · simp [hv, hgone v hv]
      · simp [hv]
    · rw [List.nodup_append']
      refine ⟨Std.ExtTreeMap.nodup_keys, hnodup, ?_⟩
      intro v hv
      rw [Std.ExtTreeMap.mem_keys, h.mem_kinds] at hv
      exact hv.1
  have hlength := hperm.length_eq
  rw [List.length_append, Std.ExtTreeMap.length_keys, Std.ExtTreeMap.length_keys] at hlength
  exact hlength

theorem deletes (h : Pruned tree tree' site gone) (hnodup : gone.Nodup)
    (hgone : ∀ v ∈ gone, v ∈ tree.kinds)
    (hup : ∀ p, ∀ v ∈ tree.subviews p, v ∈ gone → p = site ∨ p ∈ gone) :
    Deletes tree tree' site ((tree.subviews site).filter (· ∉ gone)) gone where
  toPruned := h
  nodup := hnodup
  contains_iff := h.mem_kinds
  size_add := h.size_add hnodup hgone
  list_eq p := by
    rw [h.subviews_eq]
    split
    · rfl
    · next hp =>
      split
      · next hsite => rw [hsite]
      · next hsite => exact filter_subviews_eq_self hup hp hsite

end Pruned

def descendants (tree : ViewTree K) (v : ViewId) : List ViewId :=
  (tree.preorder v).filter (· ≠ v)

theorem WellFormed.mem_descendants_iff {tree : ViewTree K} (h : tree.WellFormed) (v w : ViewId) :
    w ∈ tree.descendants v ↔ w ≠ v ∧ tree.Encloses v w := by
  unfold descendants
  rw [List.mem_filter, h.mem_preorder_iff, decide_eq_true_iff, and_comm]

theorem not_contains_of_remove_eq_error {tree : ViewTree K} {v : ViewId} {e : ViewError}
    (h : tree.remove v = .error e) : v = tree.root ∨ ¬ tree.contains v := by
  unfold remove at h
  split at h
  · next hroot => exact Or.inl hroot
  · split at h
    · contradiction
    · next hv => exact Or.inr hv

namespace WellFormed

variable {tree after : ViewTree K} {v : ViewId}

theorem not_contains_of_clear_eq_error (h : tree.WellFormed) {e : ViewError}
    (hclear : tree.clear v = .error e) : ¬ tree.contains v := by
  unfold ViewTree.clear at hclear
  split at hclear
  · next hnone =>
    rw [contains_iff_mem, ← h.mem_subviewLists, Std.ExtTreeMap.mem_iff_isSome_getElem?, hnone]
    exact Bool.false_ne_true
  · contradiction

theorem remove_deletes (h : tree.WellFormed) (hremove : tree.remove v = .ok after) :
    ∃ p, tree.superview? v = some p ∧
      Deletes tree after p ((tree.subviews p).erase v) (tree.preorder v) := by
  obtain ⟨p, forgotten, hp, hpruned, hforgotten⟩ := h.remove_pruned hremove
  have hpruned : Pruned tree after p (tree.preorder v) := by
    apply hpruned.congr
    intro w
    rw [h.mem_preorder_iff, hforgotten]
  have hlisted : v ∈ tree.subviews p := h.mem_subviews_iff.mpr hp
  have hleft : (tree.subviews p).erase v = (tree.subviews p).filter (· ∉ tree.preorder v) := by
    rw [(h.subviews_nodup p).erase_eq_filter]
    apply List.filter_congr
    intro u hu
    rw [Bool.eq_iff_iff, bne_iff_ne, decide_eq_true_iff, h.mem_preorder_iff,
      h.encloses_sibling_iff hlisted hu]
  refine ⟨p, hp, ?_⟩
  rw [hleft]
  apply hpruned.deletes (h.preorder_nodup v)
  · intro w hw
    rw [h.mem_preorder_iff] at hw
    apply h.mem_of_encloses (h.mem_of_superview hp) hw
  · intro q u hu
    rw [h.mem_preorder_iff, h.mem_preorder_iff]
    apply h.site_or_encloses hp hu

theorem clear_deletes (h : tree.WellFormed) (hclear : tree.clear v = .ok after) :
    Deletes tree after v [] (tree.descendants v) := by
  obtain ⟨forgotten, hpruned, hforgotten⟩ := h.clear_pruned hclear
  have hpruned : Pruned tree after v (tree.descendants v) := by
    apply hpruned.congr
    intro w
    rw [h.mem_descendants_iff, hforgotten]
  have hleft : [] = (tree.subviews v).filter (· ∉ tree.descendants v) := by
    symm
    rw [List.filter_eq_nil_iff]
    intro u hu
    rw [decide_eq_true_iff, not_not, h.mem_descendants_iff, ← h.exists_encloses_iff]
    exact ⟨u, hu, .refl⟩
  rw [hleft]
  apply hpruned.deletes ((h.preorder_nodup v).filter _)
  · intro w hw
    rw [h.mem_descendants_iff] at hw
    apply h.mem_of_encloses (h.mem_of_clear hclear) hw.2
  · intro q u hu
    rw [h.mem_descendants_iff, h.mem_descendants_iff]
    apply h.site_or_encloses_of_ne hu

end WellFormed

end ViewTree

namespace NamedTree

variable [Scalar K]

theorem run_new_deletes (names : ViewNames) (requests : List (TreeRequest K)) (v : ViewId) :
    let tree := ((new names).run requests).tree
    (match tree.remove v with
      | .error _ => v = tree.root ∨ ¬ tree.contains v
      | .ok after => ∃ p gone, tree.superview? v = some p ∧
          (∀ w, w ∈ gone ↔ tree.Encloses v w) ∧
          ViewTree.Deletes tree after p ((tree.subviews p).erase v) gone) ∧
      match tree.clear v with
      | .error _ => ¬ tree.contains v
      | .ok after => ∃ gone, (∀ w, w ∈ gone ↔ w ≠ v ∧ tree.Encloses v w) ∧
          ViewTree.Deletes tree after v [] gone := by
  intro tree
  have hformed : tree.WellFormed := ((new_sound names).run requests).wellFormed
  constructor
  · cases hremove : tree.remove v with
    | error e => exact ViewTree.not_contains_of_remove_eq_error hremove
    | ok after =>
      obtain ⟨p, hp, hdeletes⟩ := hformed.remove_deletes hremove
      exact ⟨p, tree.preorder v, hp, hformed.mem_preorder_iff v, hdeletes⟩
  · cases hclear : tree.clear v with
    | error e => exact hformed.not_contains_of_clear_eq_error hclear
    | ok after =>
      exact ⟨tree.descendants v, hformed.mem_descendants_iff v, hformed.clear_deletes hclear⟩

end NamedTree

end ViewMotion
