import Mathlib.Data.List.Nodup
import Mathlib.Order.WellFounded
import ViewMotion.Proofs.ViewTree.Subtree

/-!
This module contains what a tree of views looks like, and what follows for the views that a view
encloses.
-/

namespace ViewMotion.ViewTree

variable {K : Type}

structure WellFormed (tree : ViewTree K) : Prop where
  mem_bounds (v : ViewId) : v ∈ tree.bounds ↔ v ∈ tree.kinds
  mem_subviewLists (v : ViewId) : v ∈ tree.subviewLists ↔ v ∈ tree.kinds
  root_mem : tree.root ∈ tree.kinds
  superview_root : tree.superview? tree.root = none
  exists_superview {v : ViewId} (hv : v ∈ tree.kinds) (hroot : v ≠ tree.root) :
    ∃ p ∈ tree.kinds, tree.superview? v = some p
  mem_of_superview {v p : ViewId} (hp : tree.superview? v = some p) : v ∈ tree.kinds
  count_subviews {v p : ViewId} (hp : tree.superview? v = some p) : (tree.subviews p).count v = 1
  superview_of_mem {v p : ViewId} (hv : v ∈ tree.subviews p) : tree.superview? v = some p
  reaches_root {v : ViewId} (hv : v ∈ tree.kinds) :
    Relation.ReflTransGen (fun v p => tree.superview? v = some p) v tree.root
  descends : WellFounded fun v p => tree.superview? v = some p
  mem_of_group {v : ViewId} (hv : v ∈ tree.groups) : v ∈ tree.kinds
  mem_of_damaged {v : ViewId} (hv : v ∈ tree.damaged) : v ∈ tree.kinds
  mem_of_unarranged {v : ViewId} (hv : v ∈ tree.unarranged) : v ∈ tree.kinds

theorem mem_subviewLists_of_mem {tree : ViewTree K} {v p : ViewId} (h : v ∈ tree.subviews p) :
    p ∈ tree.subviewLists := by
  rw [Std.ExtTreeMap.mem_iff_isSome_getElem?]
  unfold subviews at h
  cases hlist : tree.subviewLists[p]? with
  | none => simp [hlist] at h
  | some vs => rfl

namespace WellFormed

variable {tree tree' : ViewTree K}

theorem mem_subviews_iff (h : tree.WellFormed) {v p : ViewId} :
    v ∈ tree.subviews p ↔ tree.superview? v = some p := by
  constructor
  · apply h.superview_of_mem
  · intro hp
    rw [← List.count_pos_iff, h.count_subviews hp]
    omega

theorem subviews_nodup (h : tree.WellFormed) (p : ViewId) : (tree.subviews p).Nodup := by
  rw [List.nodup_iff_count_le_one]
  intro v
  by_cases hv : v ∈ tree.subviews p
  · rw [h.count_subviews (h.superview_of_mem hv)]
  · rw [List.count_eq_zero_of_not_mem hv]
    omega

theorem superview_mem (h : tree.WellFormed) {v p : ViewId} (hp : tree.superview? v = some p) :
    p ∈ tree.kinds := by
  rw [← h.mem_subviewLists]
  apply mem_subviewLists_of_mem (v := v)
  rw [h.mem_subviews_iff]
  exact hp

theorem encloses_iff (h : tree.WellFormed) {v w : ViewId} :
    tree.Encloses v w ↔ Relation.ReflTransGen (fun v p => tree.superview? v = some p) w v := by
  have hswap : (fun p v => v ∈ tree.subviews p) =
      Function.swap fun v p => tree.superview? v = some p := by
    funext p v
    apply propext h.mem_subviews_iff
  unfold Encloses
  rw [hswap, Relation.reflTransGen_swap]

theorem encloses_root (h : tree.WellFormed) {v : ViewId} (hv : v ∈ tree.kinds) :
    tree.Encloses tree.root v := by
  rw [h.encloses_iff]
  apply h.reaches_root hv

theorem mem_of_encloses (h : tree.WellFormed) {v w : ViewId} (hv : v ∈ tree.kinds)
    (hw : tree.Encloses v w) : w ∈ tree.kinds := by
  induction hw with
  | refl => exact hv
  | tail _ hw _ => apply h.mem_of_superview (h.superview_of_mem hw)

theorem mem_of_enclosed (h : tree.WellFormed) {v w : ViewId} (hw : w ∈ tree.kinds)
    (hv : tree.Encloses v w) : v ∈ tree.kinds := by
  cases Relation.ReflTransGen.cases_head hv with
  | inl heq => exact heq ▸ hw
  | inr hbelow =>
    rcases hbelow with ⟨u, hu, -⟩
    exact h.superview_mem (h.superview_of_mem hu)

theorem encloses_of_superview (h : tree.WellFormed) {u v w : ViewId}
    (hv : tree.superview? v = some u) (hw : tree.Encloses v w) : tree.Encloses u w :=
  Relation.ReflTransGen.head (h.mem_subviews_iff.mpr hv) hw

theorem encloses_superview (h : tree.WellFormed) {u v p : ViewId}
    (hu : tree.superview? u = some p) (hp : tree.Encloses v p) : tree.Encloses v u :=
  hp.tail (h.mem_subviews_iff.mpr hu)

theorem encloses_cases (h : tree.WellFormed) {u v p : ViewId} (hu : tree.Encloses v u)
    (hp : u ∈ tree.subviews p) : u = v ∨ tree.Encloses v p := by
  cases Relation.ReflTransGen.cases_tail hu with
  | inl heq => apply Or.inl heq
  | inr hlast =>
    rcases hlast with ⟨q, hq, hqu⟩
    have heq : some q = some p := by
      rw [← h.superview_of_mem hqu, h.superview_of_mem hp]
    injection heq with heq
    apply Or.inr (heq ▸ hq)

theorem not_encloses_superview (h : tree.WellFormed) {v p : ViewId}
    (hp : tree.superview? v = some p) : ¬ tree.Encloses v p := by
  intro henc
  have hcycle : Relation.TransGen (fun v p => tree.superview? v = some p) p p :=
    Relation.TransGen.tail' (h.encloses_iff.mp henc) hp
  apply h.descends.transGen.irrefl.irrefl p hcycle

theorem encloses_sibling_iff (h : tree.WellFormed) {u v p : ViewId} (hv : v ∈ tree.subviews p)
    (hu : u ∈ tree.subviews p) : tree.Encloses v u ↔ u = v := by
  constructor
  · intro henc
    apply (h.encloses_cases henc hu).resolve_right
    apply h.not_encloses_superview (h.superview_of_mem hv)
  · intro heq
    exact heq ▸ .refl

theorem exists_encloses_iff (h : tree.WellFormed) (v w : ViewId) :
    (∃ u ∈ tree.subviews v, tree.Encloses u w) ↔ w ≠ v ∧ tree.Encloses v w := by
  constructor
  · intro ⟨u, hu, hw⟩
    have hp : tree.superview? u = some v := h.superview_of_mem hu
    refine ⟨?_, h.encloses_of_superview hp hw⟩
    intro heq
    apply h.not_encloses_superview hp (heq ▸ hw)
  · intro ⟨hne, hw⟩
    cases Relation.ReflTransGen.cases_head hw with
    | inl heq => exact absurd heq.symm hne
    | inr hfirst => exact hfirst

theorem not_encloses_root (h : tree.WellFormed) {v : ViewId} (hv : v ≠ tree.root) :
    ¬ tree.Encloses v tree.root := by
  intro henc
  cases Relation.ReflTransGen.cases_tail henc with
  | inl heq => apply hv heq.symm
  | inr hlast =>
    rcases hlast with ⟨p, -, hp⟩
    have hsome := h.superview_of_mem hp
    rw [h.superview_root] at hsome
    contradiction

theorem subviews_eq_nil (h : tree.WellFormed) {v : ViewId} (hv : v ∉ tree.kinds) :
    tree.subviews v = [] := by
  rw [List.eq_nil_iff_forall_not_mem]
  intro w hw
  apply hv
  rw [← h.mem_subviewLists]
  apply mem_subviewLists_of_mem hw

end WellFormed

end ViewMotion.ViewTree
