import ViewMotion.ViewTree.Basic

/-!
This module contains the removal of views together with everything below them.

A view is forgotten before its subviews are, so removal never goes deeper than there are lists of
subviews in the tree.
-/

namespace ViewMotion.ViewTree

variable {K : Type}

def forget (tree : ViewTree K) (v : ViewId) : ViewTree K :=
  { tree with
    kinds := tree.kinds.erase v
    bounds := tree.bounds.erase v
    superviews := tree.superviews.erase v
    subviewLists := tree.subviewLists.erase v
    groups := tree.groups.erase v
    damaged := tree.damaged.erase v
    unarranged := tree.unarranged.erase v }

def forgetWithin : (depth : Nat) → ViewTree K → ViewId → ViewTree K
  | 0, tree, v => tree.forget v
  | depth + 1, tree, v => (tree.subviews v).foldl (forgetWithin depth) (tree.forget v)

def forgetSubtree (tree : ViewTree K) (v : ViewId) : ViewTree K :=
  forgetWithin tree.subviewLists.size tree v

theorem forget_subviews (tree : ViewTree K) (v w : ViewId) :
    (tree.forget v).subviews w = if v = w then [] else tree.subviews w := by
  simp only [forget, subviews, Std.ExtTreeMap.getElem?_erase, Std.LawfulEqOrd.compare_eq_iff_eq]
  split <;> rfl

theorem forget_lists_le (tree : ViewTree K) (v : ViewId) :
    (tree.forget v).subviewLists.size ≤ tree.subviewLists.size := by
  apply Std.ExtTreeMap.size_erase_le

theorem forget_lists_lt {tree : ViewTree K} {v : ViewId} (h : tree.subviews v ≠ []) :
    (tree.forget v).subviewLists.size < tree.subviewLists.size := by
  have hmem : v ∈ tree.subviewLists := by
    rw [Std.ExtTreeMap.mem_iff_isSome_getElem?]
    cases hlist : tree.subviewLists[v]? with
    | none => simp [subviews, hlist] at h
    | some vs => rfl
  have hpos : tree.subviewLists.size ≠ 0 := by
    intro h0
    rw [Std.ExtTreeMap.eq_empty_iff_size_eq_zero.mpr h0] at hmem
    simp at hmem
  simp only [forget, Std.ExtTreeMap.size_erase, Std.ExtTreeMap.contains_iff_mem, hmem, if_true]
  omega

theorem forgetWithin_lists_le (depth : Nat) (tree : ViewTree K) (v : ViewId) :
    (forgetWithin depth tree v).subviewLists.size ≤ tree.subviewLists.size := by
  induction depth generalizing tree v with
  | zero => apply forget_lists_le
  | succ depth ih =>
    have fold (vs : List ViewId) (t : ViewTree K) :
        (vs.foldl (forgetWithin depth) t).subviewLists.size ≤ t.subviewLists.size := by
      induction vs generalizing t with
      | nil => apply Nat.le_refl
      | cons w ws ihs => exact Nat.le_trans (ihs _) (ih _ _)
    exact Nat.le_trans (fold _ _) (forget_lists_le _ _)

theorem foldl_forgetWithin_congr {depth depth' : Nat} {n : Nat}
    (h : ∀ t : ViewTree K, t.subviewLists.size ≤ n → ∀ v,
      forgetWithin depth t v = forgetWithin depth' t v)
    (vs : List ViewId) {tree : ViewTree K} (htree : tree.subviewLists.size ≤ n) :
    vs.foldl (forgetWithin depth) tree = vs.foldl (forgetWithin depth') tree := by
  induction vs generalizing tree with
  | nil => rfl
  | cons w ws ih =>
    rw [List.foldl_cons, List.foldl_cons, h tree htree]
    apply ih
    exact Nat.le_trans (forgetWithin_lists_le depth' tree w) htree

theorem forgetWithin_eq_of_le {depth depth' : Nat} {tree : ViewTree K}
    (h : tree.subviewLists.size ≤ depth) (h' : tree.subviewLists.size ≤ depth') (v : ViewId) :
    forgetWithin depth tree v = forgetWithin depth' tree v := by
  induction depth generalizing depth' tree v with
  | zero =>
    -- there are no lists, so nothing lies below the view
    have hnil : tree.subviews v = [] := by
      by_cases hnil : tree.subviews v = []
      · exact hnil
      · have := forget_lists_lt hnil
        omega
    cases depth' with
    | zero => rfl
    | succ depth' => simp only [forgetWithin, hnil, List.foldl_nil]
  | succ depth ih =>
    by_cases hnil : tree.subviews v = []
    · cases depth' <;> simp only [forgetWithin, hnil, List.foldl_nil]
    · have hlt := forget_lists_lt hnil
      cases depth' with
      | zero => omega
      | succ depth' =>
        simp only [forgetWithin]
        apply foldl_forgetWithin_congr (n := (tree.forget v).subviewLists.size) _ _ (Nat.le_refl _)
        intro t ht w
        apply ih <;> omega

theorem forgetSubtree_eq (tree : ViewTree K) (v : ViewId) :
    tree.forgetSubtree v = (tree.subviews v).foldl forgetSubtree (tree.forget v) := by
  by_cases hnil : tree.subviews v = []
  · unfold forgetSubtree
    cases tree.subviewLists.size <;> simp only [forgetWithin, hnil, List.foldl_nil]
  · have hlt := forget_lists_lt hnil
    have fold (vs : List ViewId) (depth : Nat) (t : ViewTree K) (ht : t.subviewLists.size ≤ depth) :
        vs.foldl (forgetWithin depth) t = vs.foldl forgetSubtree t := by
      induction vs generalizing t with
      | nil => rfl
      | cons w ws ih =>
        have hw : forgetWithin depth t w = t.forgetSubtree w :=
          forgetWithin_eq_of_le ht (Nat.le_refl _) w
        rw [List.foldl_cons, List.foldl_cons, ← hw]
        apply ih
        exact Nat.le_trans (forgetWithin_lists_le depth t w) ht
    rw [forgetSubtree]
    generalize hsize : tree.subviewLists.size = n at hlt
    cases n with
    | zero => omega
    | succ n =>
      simp only [forgetWithin]
      apply fold
      omega

def detach (tree : ViewTree K) (v : ViewId) : ViewTree K :=
  match tree.superview? v with
  | none => tree
  | some parent =>
    { tree with subviewLists := tree.subviewLists.modify parent (·.filter (· != v)) }
      |>.disarrange parent
      |>.damage parent

def remove (tree : ViewTree K) (v : ViewId) : Except ViewError (ViewTree K) :=
  if v = tree.root then .error .isRoot
  else if tree.contains v then .ok ((tree.detach v).forgetSubtree v)
  else .error (.missing v)

def clear (tree : ViewTree K) (v : ViewId) : Except ViewError (ViewTree K) :=
  match tree.subviewLists[v]? with
  | none => .error (.missing v)
  | some subviews =>
    let emptied := { tree with subviewLists := tree.subviewLists.insert v [] }
    .ok (subviews.foldl forgetSubtree emptied |>.disarrange v |>.damage v)

end ViewMotion.ViewTree
