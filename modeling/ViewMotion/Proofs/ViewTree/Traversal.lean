import Mathlib.Data.List.Perm.Subperm
import ViewMotion.Proofs.ViewTree.WellFormed

/-!
This module contains the traversals of a well-formed tree. They all take views off a stack and put
the subviews in their place, in one order or another.
-/

namespace ViewMotion.ViewTree

variable {K : Type}

inductive Walk (next : ViewId → List ViewId) : List ViewId → List ViewId → Prop where
  | done : Walk next [] []
  | pop {v : ViewId} {rest ids : List ViewId} (below : Walk next (next v ++ rest) ids) :
    Walk next (v :: rest) (v :: ids)

namespace Walk

variable {tree : ViewTree K} {next : ViewId → List ViewId} {stack stack' ids ids' : List ViewId}

theorem append (h : Walk next stack ids) (h' : Walk next stack' ids') :
    Walk next (stack ++ stack') (ids ++ ids') := by
  induction h with
  | done => exact h'
  | pop below ih =>
    rw [List.append_assoc] at ih
    exact .pop ih

theorem mem_iff (hnext : ∀ v, (next v).Perm (tree.subviews v)) (h : Walk next stack ids)
    (w : ViewId) : w ∈ ids ↔ ∃ v ∈ stack, tree.Encloses v w := by
  induction h with
  | done => simp
  | @pop v rest ids below ih =>
    rw [List.mem_cons, ih]
    constructor
    · intro hw
      cases hw with
      | inl heq => exact ⟨v, List.mem_cons_self, heq ▸ .refl⟩
      | inr hw =>
        rcases hw with ⟨u, hu, huw⟩
        cases List.mem_append.mp hu with
        | inl hu => exact ⟨v, List.mem_cons_self, huw.head ((hnext v).mem_iff.mp hu)⟩
        | inr hu => exact ⟨u, List.mem_cons_of_mem v hu, huw⟩
    · intro ⟨u, hu, huw⟩
      cases List.mem_cons.mp hu with
      | inl heq =>
        subst heq
        cases Relation.ReflTransGen.cases_head huw with
        | inl heq => apply Or.inl heq.symm
        | inr hfirst =>
          rcases hfirst with ⟨x, hx, hxw⟩
          apply Or.inr ⟨x, List.mem_append_left rest ((hnext u).mem_iff.mpr hx), hxw⟩
      | inr hu => apply Or.inr ⟨u, List.mem_append_right _ hu, huw⟩

theorem go_eq {steps : Nat} (h : Walk tree.subviews stack ids) (hsteps : ids.length ≤ steps) :
    preorder.go tree steps stack = ids := by
  induction h generalizing steps with
  | done => cases steps <;> rfl
  | pop below ih =>
    cases steps with
    | zero => contradiction
    | succ steps =>
      unfold preorder.go
      rw [ih (Nat.le_of_succ_le_succ hsteps)]

theorem collect?_eq (h : Walk (fun v => (tree.subviews v).reverse) stack ids) (limit : Nat) :
    tree.collect? limit stack = if ids.length < limit then some ids else none := by
  induction h generalizing limit with
  | done => cases limit <;> rfl
  | @pop v rest ids below ih =>
    cases limit with
    | zero => rfl
    | succ limit =>
      unfold collect?
      rw [ih]
      simp only [List.length_cons, Nat.succ_lt_succ_iff]
      split <;> rfl

end Walk

def Apart (tree : ViewTree K) (v w : ViewId) : Prop := ¬ tree.Encloses v w ∧ ¬ tree.Encloses w v

namespace WellFormed

variable {tree : ViewTree K} {next : ViewId → List ViewId}

theorem exists_walk (h : tree.WellFormed) (hnext : ∀ v, (next v).Perm (tree.subviews v))
    (v : ViewId) : ∃ ids, Walk next [v] ids := by
  induction v using h.descends.induction with
  | h v ih =>
    have all (vs : List ViewId) (hvs : ∀ u ∈ vs, tree.superview? u = some v) :
        ∃ ids, Walk next vs ids := by
      induction vs with
      | nil => exact ⟨[], .done⟩
      | cons u vs ihs =>
        rcases ih u (hvs u List.mem_cons_self) with ⟨first, hfirst⟩
        rcases ihs fun w hw => hvs w (List.mem_cons_of_mem u hw) with ⟨others, hothers⟩
        exact ⟨first ++ others, hfirst.append hothers⟩
    obtain ⟨ids, hids⟩ := all (next v) fun u hu =>
      h.superview_of_mem ((hnext v).mem_iff.mp hu)
    refine ⟨v :: ids, .pop ?_⟩
    rw [List.append_nil]
    exact hids

theorem subviews_apart (h : tree.WellFormed) {u v p : ViewId} (hu : u ∈ tree.subviews p)
    (hv : v ∈ tree.subviews p) (hne : u ≠ v) : Apart tree u v := by
  constructor
  · intro henc
    cases h.encloses_cases henc hv with
    | inl heq => apply hne heq.symm
    | inr henc => apply h.not_encloses_superview (h.superview_of_mem hu) henc
  · intro henc
    cases h.encloses_cases henc hu with
    | inl heq => apply hne heq
    | inr henc => apply h.not_encloses_superview (h.superview_of_mem hv) henc

theorem apart_of_superview (h : tree.WellFormed) {u p w : ViewId} (hu : u ∈ tree.subviews p)
    (hp : Apart tree p w) : Apart tree u w := by
  constructor
  · intro henc
    apply hp.1 (henc.head hu)
  · intro henc
    cases h.encloses_cases henc hu with
    | inl heq => apply hp.1 (heq ▸ Relation.ReflTransGen.single hu)
    | inr henc => apply hp.2 henc

theorem walk_nodup (h : tree.WellFormed) (hnext : ∀ v, (next v).Perm (tree.subviews v))
    {stack ids : List ViewId} (hwalk : Walk next stack ids)
    (hstack : stack.Pairwise (Apart tree)) : ids.Nodup := by
  induction hwalk with
  | done => apply List.nodup_nil
  | @pop v rest ids below ih =>
    rw [List.pairwise_cons] at hstack
    have hmem {u : ViewId} (hu : u ∈ next v) : u ∈ tree.subviews v := (hnext v).mem_iff.mp hu
    rw [List.nodup_cons]
    constructor
    · rw [below.mem_iff hnext]
      intro ⟨u, hu, huv⟩
      cases List.mem_append.mp hu with
      | inl hu => apply h.not_encloses_superview (h.superview_of_mem (hmem hu)) huv
      | inr hu => exact (hstack.1 u hu).2 huv
    · apply ih
      rw [List.pairwise_append]
      refine ⟨?_, hstack.2, ?_⟩
      · have hnodup : (next v).Nodup := (hnext v).nodup_iff.mpr (h.subviews_nodup v)
        apply List.Pairwise.imp_of_mem _ hnodup
        intro u w hu hw hne
        apply h.subviews_apart (hmem hu) (hmem hw) hne
      · intro u hu w hw
        apply h.apart_of_superview (hmem hu) (hstack.1 w hw)

theorem walk_length_le (h : tree.WellFormed) (hnext : ∀ v, (next v).Perm (tree.subviews v))
    {v : ViewId} {ids : List ViewId} (hwalk : Walk next [v] ids) : ids.length ≤ tree.size := by
  have hnodup : ids.Nodup := h.walk_nodup hnext hwalk (List.pairwise_singleton _ v)
  have fits (root : ViewId) (hroot : root ∈ tree.kinds) (henc : ∀ w ∈ ids, tree.Encloses root w) :
      ids.length ≤ tree.size := by
    unfold size
    rw [← Std.ExtTreeMap.length_keys]
    apply (hnodup.subperm _).length_le
    intro w hw
    rw [Std.ExtTreeMap.mem_keys]
    apply h.mem_of_encloses hroot (henc w hw)
  by_cases hv : v ∈ tree.kinds
  · apply fits v hv
    intro w hw
    rcases (hwalk.mem_iff hnext w).mp hw with ⟨u, hu, huw⟩
    rw [List.mem_singleton.mp hu] at huw
    exact huw
  · -- nothing lies below a view that is not in the tree, so the walk is over after one step
    have hnil : next v = [] := by
      rw [List.eq_nil_iff_forall_not_mem]
      intro u hu
      rw [(hnext v).mem_iff, h.subviews_eq_nil hv] at hu
      contradiction
    have hids : ids = [v] := by
      cases hwalk with
      | pop below =>
        rw [hnil] at below
        cases below
        rfl
    have hsize : tree.size ≠ 0 := by
      unfold size
      intro hzero
      have hroot := h.root_mem
      rw [Std.ExtTreeMap.eq_empty_iff_size_eq_zero.mpr hzero] at hroot
      simp at hroot
    rw [hids, List.length_singleton]
    omega

theorem preorder_walk (h : tree.WellFormed) (v : ViewId) :
    Walk tree.subviews [v] (tree.preorder v) := by
  rcases h.exists_walk (fun v => .refl (tree.subviews v)) v with ⟨ids, hids⟩
  have hlength := h.walk_length_le (fun v => .refl (tree.subviews v)) hids
  unfold preorder
  rw [hids.go_eq hlength]
  exact hids

theorem preorder_nodup (h : tree.WellFormed) (v : ViewId) : (tree.preorder v).Nodup :=
  h.walk_nodup (fun v => .refl (tree.subviews v)) (h.preorder_walk v) (List.pairwise_singleton _ v)

theorem mem_preorder_iff (h : tree.WellFormed) (v w : ViewId) :
    w ∈ tree.preorder v ↔ tree.Encloses v w := by
  rw [(h.preorder_walk v).mem_iff fun v => .refl (tree.subviews v)]
  simp

theorem mem_preorder_root_iff (h : tree.WellFormed) (v : ViewId) :
    v ∈ tree.preorder tree.root ↔ tree.contains v := by
  rw [h.mem_preorder_iff, contains_iff_mem]
  constructor
  · apply h.mem_of_encloses h.root_mem
  · apply h.encloses_root

theorem preorder_root_length (h : tree.WellFormed) :
    (tree.preorder tree.root).length = tree.size := by
  unfold size
  rw [← Std.ExtTreeMap.length_keys]
  apply List.Perm.length_eq
  rw [List.perm_ext_iff_of_nodup (h.preorder_nodup tree.root) Std.ExtTreeMap.nodup_keys]
  intro v
  rw [h.mem_preorder_root_iff, Std.ExtTreeMap.mem_keys, contains_iff_mem]

theorem collect?_eq (h : tree.WellFormed) (v : ViewId) :
    ∃ ids, ids.length ≤ tree.size ∧ ids.Nodup ∧ (∀ w, w ∈ ids ↔ tree.Encloses v w) ∧
      ∀ limit, tree.collect? limit [v] = if ids.length < limit then some ids else none := by
  have hnext (v : ViewId) : (tree.subviews v).reverse.Perm (tree.subviews v) :=
    List.reverse_perm (tree.subviews v)
  rcases h.exists_walk hnext v with ⟨ids, hids⟩
  refine ⟨ids, h.walk_length_le hnext hids,
    h.walk_nodup hnext hids (List.pairwise_singleton _ v), ?_, hids.collect?_eq⟩
  intro w
  rw [hids.mem_iff hnext]
  simp

end WellFormed

end ViewMotion.ViewTree
