import Mathlib.Logic.Relation
import ViewMotion.ViewTree.Removal

/-!
This module contains what the removal of a subtree does to any tree, well formed or not: it forgets
the views that can be reached through lists of subviews, and nothing else.
-/

namespace ViewMotion.ViewTree

variable {K : Type}

def Encloses (tree : ViewTree K) : ViewId → ViewId → Prop :=
  Relation.ReflTransGen fun p v => v ∈ tree.subviews p

theorem Encloses.mono {tree tree' : ViewTree K} {v w : ViewId}
    (hsub : ∀ p, tree.subviews p ⊆ tree'.subviews p) (h : tree.Encloses v w) :
    tree'.Encloses v w := by
  apply Relation.ReflTransGen.mono _ _ _ h
  intro p u hu
  apply hsub p hu

def forgetAll (tree : ViewTree K) (gone : List ViewId) : ViewTree K := gone.foldl forget tree

theorem forgetAll_append (tree : ViewTree K) (gone gone' : List ViewId) :
    tree.forgetAll (gone ++ gone') = (tree.forgetAll gone).forgetAll gone' := by
  unfold forgetAll
  rw [List.foldl_append]

theorem forgetAll_root (tree : ViewTree K) (gone : List ViewId) :
    (tree.forgetAll gone).root = tree.root := by
  induction gone generalizing tree with
  | nil => rfl
  | cons v gone ih => apply ih

-- `look` is any look-up that finds nothing for a view once it is forgotten
theorem forgetAll_look {β : Type} (look : ViewTree K → ViewId → β) {nothing : β}
    (hlook : ∀ tree v w, look (tree.forget v) w = if v = w then nothing else look tree w)
    (tree : ViewTree K) (gone : List ViewId) (w : ViewId) :
    look (tree.forgetAll gone) w = if w ∈ gone then nothing else look tree w := by
  induction gone generalizing tree with
  | nil => simp [forgetAll]
  | cons v gone ih =>
    have step : look (tree.forgetAll (v :: gone)) w = look ((tree.forget v).forgetAll gone) w := rfl
    rw [step, ih, hlook]
    by_cases hgone : w ∈ gone
    · simp [hgone]
    · by_cases hv : v = w
      · simp [hv]
      · have hw : ¬ w = v := fun h => hv h.symm
        simp [hgone, hv, hw]

theorem forget_kind? (tree : ViewTree K) (v w : ViewId) :
    (tree.forget v).kind? w = if v = w then none else tree.kind? w := by
  simp only [forget, kind?, Std.ExtTreeMap.getElem?_erase, Std.LawfulEqOrd.compare_eq_iff_eq]

theorem forget_bounds? (tree : ViewTree K) (v w : ViewId) :
    (tree.forget v).bounds? w = if v = w then none else tree.bounds? w := by
  simp only [forget, bounds?, Std.ExtTreeMap.getElem?_erase, Std.LawfulEqOrd.compare_eq_iff_eq]

theorem forget_superview? (tree : ViewTree K) (v w : ViewId) :
    (tree.forget v).superview? w = if v = w then none else tree.superview? w := by
  simp only [forget, superview?, Std.ExtTreeMap.getElem?_erase, Std.LawfulEqOrd.compare_eq_iff_eq]

theorem forget_group? (tree : ViewTree K) (v w : ViewId) :
    (tree.forget v).group? w = if v = w then none else tree.group? w := by
  simp only [forget, group?, Std.ExtTreeMap.getElem?_erase, Std.LawfulEqOrd.compare_eq_iff_eq]

theorem forget_subviewLists (tree : ViewTree K) (v w : ViewId) :
    (tree.forget v).subviewLists[w]? = if v = w then none else tree.subviewLists[w]? := by
  simp only [forget, Std.ExtTreeMap.getElem?_erase, Std.LawfulEqOrd.compare_eq_iff_eq]

theorem forget_damaged (tree : ViewTree K) (v w : ViewId) :
    (tree.forget v).damaged.contains w = if v = w then false else tree.damaged.contains w := by
  rw [Bool.eq_iff_iff]
  simp [forget]

theorem forget_unarranged (tree : ViewTree K) (v w : ViewId) :
    (tree.forget v).unarranged.contains w =
      if v = w then false else tree.unarranged.contains w := by
  rw [Bool.eq_iff_iff]
  simp [forget]

theorem forgetAll_subviews (tree : ViewTree K) (gone : List ViewId) (w : ViewId) :
    (tree.forgetAll gone).subviews w = if w ∈ gone then [] else tree.subviews w := by
  apply forgetAll_look subviews forget_subviews

theorem forgetAll_subset (tree : ViewTree K) (gone : List ViewId) (p : ViewId) :
    (tree.forgetAll gone).subviews p ⊆ tree.subviews p := by
  rw [forgetAll_subviews]
  split <;> simp

theorem forgetAll_lists_le (tree : ViewTree K) (gone : List ViewId) :
    (tree.forgetAll gone).subviewLists.size ≤ tree.subviewLists.size := by
  induction gone generalizing tree with
  | nil => apply Nat.le_refl
  | cons v gone ih => apply Nat.le_trans (ih (tree.forget v)) (forget_lists_le tree v)

theorem foldl_forgetSubtree_within {n : Nat}
    (ih : ∀ tree : ViewTree K, tree.subviewLists.size ≤ n → ∀ v, ∃ gone,
      tree.forgetSubtree v = tree.forgetAll gone ∧ ∀ w, w ∈ gone ↔ tree.Encloses v w)
    (vs : List ViewId) (tree : ViewTree K) (hsize : tree.subviewLists.size ≤ n) :
    ∃ gone, vs.foldl forgetSubtree tree = tree.forgetAll gone ∧
      ∀ w, w ∈ gone ↔ ∃ v ∈ vs, tree.Encloses v w := by
  induction vs generalizing tree with
  | nil => exact ⟨[], rfl, by simp⟩
  | cons v vs ihs =>
    rcases ih tree hsize v with ⟨first, hfirst, hmem⟩
    obtain ⟨others, hothers, hmem'⟩ := ihs (tree.forgetAll first)
      (Nat.le_trans (forgetAll_lists_le tree first) hsize)
    refine ⟨first ++ others, ?_, ?_⟩
    · rw [List.foldl_cons, hfirst, hothers, forgetAll_append]
    · intro w
      rw [List.mem_append]
      constructor
      · intro h
        cases h with
        | inl h => exact ⟨v, List.mem_cons_self, (hmem w).mp h⟩
        | inr h =>
          rcases (hmem' w).mp h with ⟨u, hu, hw⟩
          exact ⟨u, List.mem_cons_of_mem v hu, hw.mono (forgetAll_subset tree first)⟩
      · intro ⟨u, hu, hw⟩
        -- a path either enters what went first, or it is still there afterwards
        induction hw with
        | refl =>
          cases List.mem_cons.mp hu with
          | inl h => apply Or.inl ((hmem u).mpr (h ▸ .refl))
          | inr h => apply Or.inr ((hmem' u).mpr ⟨u, h, .refl⟩)
        | @tail x y hx hy ihx =>
          by_cases hxf : x ∈ first
          · apply Or.inl ((hmem y).mpr (((hmem x).mp hxf).tail hy))
          · have hxo : x ∈ others := ihx.resolve_left hxf
            rcases (hmem' x).mp hxo with ⟨z, hz, hzx⟩
            refine Or.inr ((hmem' y).mpr ⟨z, hz, hzx.tail ?_⟩)
            rw [forgetAll_subviews, if_neg hxf]
            exact hy

theorem forgetSubtree_forgets (tree : ViewTree K) (v : ViewId) :
    ∃ gone, tree.forgetSubtree v = tree.forgetAll gone ∧ ∀ w, w ∈ gone ↔ tree.Encloses v w := by
  generalize hn : tree.subviewLists.size = n
  induction n using Nat.strongRecOn generalizing tree v with
  | ind n ih =>
    have forgotten : ∃ gone,
        (tree.subviews v).foldl forgetSubtree (tree.forget v) = (tree.forget v).forgetAll gone ∧
          ∀ w, w ∈ gone ↔ ∃ u ∈ tree.subviews v, (tree.forget v).Encloses u w := by
      by_cases hnil : tree.subviews v = []
      · exact ⟨[], by rw [hnil]; rfl, by simp [hnil]⟩
      · have hlt := forget_lists_lt hnil
        apply foldl_forgetSubtree_within (n := (tree.forget v).subviewLists.size)
        · intro t ht w
          apply ih t.subviewLists.size _ t w rfl
          omega
        · apply Nat.le_refl
    rcases forgotten with ⟨gone, hgone, hmem⟩
    refine ⟨v :: gone, ?_, ?_⟩
    · rw [forgetSubtree_eq, hgone]
      rfl
    · intro w
      rw [List.mem_cons]
      constructor
      · intro h
        cases h with
        | inl h => exact h ▸ .refl
        | inr h =>
          rcases (hmem w).mp h with ⟨u, hu, hw⟩
          exact Relation.ReflTransGen.head hu (hw.mono (forgetAll_subset tree [v]))
      · intro h
        induction h with
        | refl => apply Or.inl rfl
        | @tail x y hx hy ihx =>
          refine Or.inr ((hmem y).mpr ?_)
          by_cases hxv : x = v
          · exact ⟨y, hxv ▸ hy, .refl⟩
          · rcases (hmem x).mp (ihx.resolve_left hxv) with ⟨u, hu, hux⟩
            refine ⟨u, hu, hux.tail ?_⟩
            rw [forget_subviews, if_neg fun h => hxv h.symm]
            exact hy

theorem foldl_forgetSubtree_forgets (vs : List ViewId) (tree : ViewTree K) :
    ∃ gone, vs.foldl forgetSubtree tree = tree.forgetAll gone ∧
      ∀ w, w ∈ gone ↔ ∃ v ∈ vs, tree.Encloses v w :=
  foldl_forgetSubtree_within (fun t _ v => forgetSubtree_forgets t v) vs tree (Nat.le_refl _)

end ViewMotion.ViewTree
