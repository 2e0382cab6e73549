import ViewMotion.Proofs.ViewTree.History

/-!
This module contains when two trees agree on a view: it is the same in both of them, and they have
the same views in the same places, whatever the bounds of the others are. Requests to both trees
keep that agreement.
-/

namespace ViewMotion

variable {K : Type}

structure ViewTree.AgreeOn (v : ViewId) (tree tree' : ViewTree K) : Prop where
  root_eq : tree'.root = tree.root
  kinds_eq : tree'.kinds = tree.kinds
  superviews_eq : tree'.superviews = tree.superviews
  subviewLists_eq : tree'.subviewLists = tree.subviewLists
  groups_eq : tree'.groups = tree.groups
  bounds?_eq : tree'.bounds? v = tree.bounds? v

namespace ViewTree.AgreeOn

variable {v : ViewId} {tree tree' : ViewTree K}

theorem refl (v : ViewId) (tree : ViewTree K) : AgreeOn v tree tree :=
  ⟨rfl, rfl, rfl, rfl, rfl, rfl⟩

theorem contains_eq (h : AgreeOn v tree tree') (w : ViewId) :
    tree'.contains w = tree.contains w := by
  simp [contains, h.kinds_eq]

theorem superview?_eq (h : AgreeOn v tree tree') (w : ViewId) :
    tree'.superview? w = tree.superview? w := by
  simp [superview?, h.superviews_eq]

theorem subviews_eq (h : AgreeOn v tree tree') (w : ViewId) :
    tree'.subviews w = tree.subviews w := by
  simp [subviews, h.subviewLists_eq]

theorem withMarks (h : AgreeOn v tree tree')
    (damaged damaged' unarranged unarranged' : Std.ExtTreeSet ViewId) :
    AgreeOn v { tree with damaged, unarranged }
      { tree' with damaged := damaged', unarranged := unarranged' } :=
  ⟨h.root_eq, h.kinds_eq, h.superviews_eq, h.subviewLists_eq, h.groups_eq, h.bounds?_eq⟩

theorem withKinds (h : AgreeOn v tree tree') (kinds : Std.ExtTreeMap ViewId (ViewKind K)) :
    AgreeOn v { tree with kinds } { tree' with kinds } :=
  ⟨h.root_eq, rfl, h.superviews_eq, h.subviewLists_eq, h.groups_eq, h.bounds?_eq⟩

theorem withLists (h : AgreeOn v tree tree')
    (subviewLists : Std.ExtTreeMap ViewId (List ViewId)) :
    AgreeOn v { tree with subviewLists } { tree' with subviewLists } :=
  ⟨h.root_eq, h.kinds_eq, h.superviews_eq, rfl, h.groups_eq, h.bounds?_eq⟩

theorem withGroups (h : AgreeOn v tree tree') (groups : Std.ExtTreeMap ViewId Nat) :
    AgreeOn v { tree with groups } { tree' with groups } :=
  ⟨h.root_eq, h.kinds_eq, h.superviews_eq, h.subviewLists_eq, rfl, h.bounds?_eq⟩

theorem damage (h : AgreeOn v tree tree') (w : ViewId) :
    AgreeOn v (tree.damage w) (tree'.damage w) := by
  apply h.withMarks

theorem disarrange (h : AgreeOn v tree tree') (w : ViewId) :
    AgreeOn v (tree.disarrange w) (tree'.disarrange w) := by
  apply h.withMarks

theorem forget (h : AgreeOn v tree tree') (w : ViewId) :
    AgreeOn v (tree.forget w) (tree'.forget w) := by
  constructor
  case bounds?_eq => simp only [forget_bounds?, h.bounds?_eq]
  all_goals simp [ViewTree.forget, h.root_eq, h.kinds_eq, h.superviews_eq, h.subviewLists_eq,
    h.groups_eq]

theorem foldl {step : ViewTree K → ViewId → ViewTree K}
    (hstep : ∀ {tree tree'} w, AgreeOn v tree tree' → AgreeOn v (step tree w) (step tree' w))
    (h : AgreeOn v tree tree') (ws : List ViewId) :
    AgreeOn v (ws.foldl step tree) (ws.foldl step tree') := by
  induction ws generalizing tree tree' with
  | nil => exact h
  | cons w ws ih => apply ih (hstep w h)

theorem forgetWithin (h : AgreeOn v tree tree') (depth : Nat) (w : ViewId) :
    AgreeOn v (ViewTree.forgetWithin depth tree w) (ViewTree.forgetWithin depth tree' w) := by
  induction depth generalizing tree tree' w with
  | zero => apply h.forget
  | succ depth ih =>
    unfold ViewTree.forgetWithin
    rw [h.subviews_eq]
    apply foldl (fun w h => ih h w) (h.forget w)

theorem forgetSubtree (h : AgreeOn v tree tree') (w : ViewId) :
    AgreeOn v (tree.forgetSubtree w) (tree'.forgetSubtree w) := by
  unfold ViewTree.forgetSubtree
  rw [h.subviewLists_eq]
  apply h.forgetWithin

theorem detach (h : AgreeOn v tree tree') (w : ViewId) :
    AgreeOn v (tree.detach w) (tree'.detach w) := by
  unfold ViewTree.detach
  rw [h.superview?_eq]
  split
  · exact h
  · rw [h.subviewLists_eq]
    apply damage
    apply disarrange
    apply h.withLists

section Entering

variable [Scalar K]

theorem insert (h : AgreeOn v tree tree') (parent : ViewId) (kind : ViewKind K) (w : ViewId) :
    AgreeOn v ((tree.enter w kind).attach parent w) ((tree'.enter w kind).attach parent w) := by
  constructor
  case bounds?_eq => simp only [attach_bounds?, h.bounds?_eq]
  all_goals simp [enter, attach, ViewTree.damage, ViewTree.disarrange, h.root_eq, h.kinds_eq,
    h.superviews_eq, h.subviewLists_eq, h.groups_eq]

theorem place (h : AgreeOn v tree tree') (w : ViewId) (bounds : Rect K) :
    AgreeOn v (tree.place w bounds).2 (tree'.place w bounds).2 := by
  constructor
  case bounds?_eq => simp only [place_bounds?, h.bounds?_eq]
  all_goals simp only [place_root, place_kinds, place_superviews, place_subviewLists, place_groups,
    h.root_eq, h.kinds_eq, h.superviews_eq, h.subviewLists_eq, h.groups_eq]

theorem place_other (h : AgreeOn v tree tree') {w : ViewId} (hw : w ≠ v) (bounds : Rect K) :
    AgreeOn v (tree.place w bounds).2 tree' := by
  constructor
  case bounds?_eq => rw [place_bounds?, if_neg hw, h.bounds?_eq]
  all_goals simp only [place_root, place_kinds, place_superviews, place_subviewLists, place_groups,
    h.root_eq, h.kinds_eq, h.superviews_eq, h.subviewLists_eq, h.groups_eq]

end Entering

end ViewTree.AgreeOn

namespace NamedTree

structure AgreeOn (v : ViewId) (state state' : NamedTree K) : Prop where
  tree : ViewTree.AgreeOn v state.tree state'.tree
  names_eq : state'.names = state.names

variable [Scalar K] {v : ViewId} {state state' : NamedTree K}

theorem AgreeOn.perform (h : AgreeOn v state state') (request : TreeRequest K) :
    AgreeOn v (state.perform request) (state'.perform request) := by
  unfold NamedTree.perform
  cases request with
  | insert parent kind =>
    simp only [ViewTree.insert, h.tree.contains_eq, h.names_eq]
    cases state.tree.contains parent with
    | true => exact ⟨h.tree.insert parent kind _, rfl⟩
    | false => exact h
  | remove w =>
    simp only [ViewTree.remove, h.tree.contains_eq, h.tree.root_eq]
    by_cases hroot : w = state.tree.root
    · simpa [hroot] using h
    · cases state.tree.contains w with
      | true =>
        simp only [hroot, if_true, if_false]
        exact ⟨(h.tree.detach w).forgetSubtree w, h.names_eq⟩
      | false => simpa [hroot] using h
  | clear w =>
    simp only [ViewTree.clear, h.tree.subviewLists_eq]
    cases state.tree.subviewLists[w]? with
    | none => exact h
    | some vs =>
      have hforgotten := (h.tree.withLists (state.tree.subviewLists.insert w [])).foldl
        (fun w h => h.forgetSubtree w) vs
      exact ⟨(hforgotten.disarrange w).damage w, h.names_eq⟩
  | place w bounds => exact ⟨h.tree.place w bounds, h.names_eq⟩
  | modifyKind w change =>
    simp only [ViewTree.modifyKind?, ViewTree.kind?, h.tree.kinds_eq]
    cases state.tree.kinds[w]? with
    | none => exact h
    | some kind => exact ⟨(h.tree.withKinds _).damage w, h.names_eq⟩
  | setGroup w group =>
    simp only [ViewTree.setGroup, h.tree.contains_eq, h.tree.groups_eq]
    cases state.tree.contains w with
    | true => exact ⟨h.tree.withGroups _, h.names_eq⟩
    | false => exact h
  | takeDamaged => exact ⟨h.tree.withMarks _ _ _ _, h.names_eq⟩
  | takeUnarranged => exact ⟨h.tree.withMarks _ _ _ _, h.names_eq⟩
  | takeName => exact ⟨h.tree, by simp [h.names_eq]⟩

end NamedTree

end ViewMotion
