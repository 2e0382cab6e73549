import ViewMotion.Proofs.ViewTree.WellFormed

/-!
This module contains the effects of the operations on a well-formed tree, which stays well formed.
-/

namespace ViewMotion.ViewTree

variable {K : Type}

section Entering

variable [Scalar K] {tree tree' : ViewTree K} {parent v : ViewId} {kind : ViewKind K}

theorem insert_eq_ok_iff :
    tree.insert parent kind v = .ok tree' ↔
      tree.contains parent ∧ tree' = (tree.enter v kind).attach parent v := by
  unfold insert
  split
  · next h => simp [h, eq_comm]
  · next h => simp [h]

theorem attach_bounds? (w : ViewId) :
    ((tree.enter v kind).attach parent v).bounds? w =
      if v = w then some .zero else tree.bounds? w := by
  simp only [attach, disarrange, enter, damage, bounds?, Std.ExtTreeMap.getElem?_insert,
    Std.LawfulEqOrd.compare_eq_iff_eq]

theorem attach_superview? (w : ViewId) :
    ((tree.enter v kind).attach parent v).superview? w =
      if v = w then some parent else tree.superview? w := by
  simp only [attach, disarrange, enter, damage, superview?, Std.ExtTreeMap.getElem?_insert,
    Std.LawfulEqOrd.compare_eq_iff_eq]

theorem attach_subviews (hne : v ≠ parent) (hparent : parent ∈ tree.subviewLists) (w : ViewId) :
    ((tree.enter v kind).attach parent v).subviews w =
      if v = w then []
      else if parent = w then tree.subviews w ++ [v]
      else tree.subviews w := by
  simp only [attach, disarrange, enter, damage, subviews, Std.ExtTreeMap.getElem?_modify,
    Std.ExtTreeMap.getElem?_insert, Std.LawfulEqOrd.compare_eq_iff_eq]
  by_cases hw : v = w
  · have hparent : ¬ parent = w := fun h => hne (hw.trans h.symm)
    simp [hw, hparent]
  · by_cases hpw : parent = w
    · subst hpw
      rw [Std.ExtTreeMap.mem_iff_isSome_getElem?, Option.isSome_iff_exists] at hparent
      rcases hparent with ⟨vs, hvs⟩
      simp [hw, hvs]
    · simp [hw, hpw]

theorem attach_mem_kinds (w : ViewId) :
    w ∈ ((tree.enter v kind).attach parent v).kinds ↔ v = w ∨ w ∈ tree.kinds := by
  simp only [attach, disarrange, enter, damage, Std.ExtTreeMap.mem_insert,
    Std.LawfulEqOrd.compare_eq_iff_eq]

theorem attach_mem_damaged (w : ViewId) :
    w ∈ ((tree.enter v kind).attach parent v).damaged ↔ v = w ∨ w ∈ tree.damaged := by
  simp only [attach, disarrange, enter, damage, Std.ExtTreeSet.mem_insert,
    Std.LawfulEqOrd.compare_eq_iff_eq]

theorem attach_mem_unarranged (w : ViewId) :
    w ∈ ((tree.enter v kind).attach parent v).unarranged ↔
      parent = w ∨ w ∈ tree.unarranged := by
  simp only [attach, disarrange, enter, damage, Std.ExtTreeSet.mem_insert,
    Std.LawfulEqOrd.compare_eq_iff_eq]

namespace WellFormed

theorem attach_superview (h : tree.WellFormed) (hv : v ∉ tree.kinds) {w p : ViewId}
    (hp : tree.superview? w = some p) :
    ((tree.enter v kind).attach parent v).superview? w = some p := by
  have hne : ¬ v = w := by
    intro heq
    apply hv
    rw [heq]
    apply h.mem_of_superview hp
  rw [attach_superview?, if_neg hne]
  exact hp

theorem attach_count (h : tree.WellFormed) (hv : v ∉ tree.kinds) (hparent : parent ∈ tree.kinds)
    {w p : ViewId} (hp : ((tree.enter v kind).attach parent v).superview? w = some p) :
    (((tree.enter v kind).attach parent v).subviews p).count w = 1 := by
  have hne : v ≠ parent := fun heq => hv (heq ▸ hparent)
  rw [attach_subviews hne ((h.mem_subviewLists parent).mpr hparent)]
  rw [attach_superview?] at hp
  split at hp
  · next heq =>
    injection hp with hp
    subst hp heq
    have hold : v ∉ tree.subviews parent := by
      intro hmem
      apply hv (h.mem_of_superview (h.superview_of_mem hmem))
    rw [if_neg hne, if_pos rfl, List.count_append, List.count_eq_zero_of_not_mem hold]
    simp
  · next hvw =>
    have hvp : ¬ v = p := fun heq => hv (heq ▸ h.superview_mem hp)
    rw [if_neg hvp]
    split
    · rw [List.count_append, h.count_subviews hp]
      simp [hvw]
    · apply h.count_subviews hp

theorem attach_listed (h : tree.WellFormed) (hv : v ∉ tree.kinds) (hparent : parent ∈ tree.kinds)
    {w p : ViewId} (hw : w ∈ ((tree.enter v kind).attach parent v).subviews p) :
    ((tree.enter v kind).attach parent v).superview? w = some p := by
  have hne : v ≠ parent := fun heq => hv (heq ▸ hparent)
  rw [attach_subviews hne ((h.mem_subviewLists parent).mpr hparent)] at hw
  split at hw
  · contradiction
  · split at hw
    · next hpw =>
      cases List.mem_append.mp hw with
      | inl hw => apply h.attach_superview hv (h.superview_of_mem hw)
      | inr hw =>
        rw [attach_superview?, if_pos (List.mem_singleton.mp hw).symm, hpw]
    · apply h.attach_superview hv (h.superview_of_mem hw)

theorem attach_reaches_root (h : tree.WellFormed) (hv : v ∉ tree.kinds)
    (hparent : parent ∈ tree.kinds) {w : ViewId} (hw : v = w ∨ w ∈ tree.kinds) :
    Relation.ReflTransGen
      (fun u p => ((tree.enter v kind).attach parent v).superview? u = some p) w tree.root := by
  have hold {u : ViewId} (hu : u ∈ tree.kinds) :
      Relation.ReflTransGen
        (fun u p => ((tree.enter v kind).attach parent v).superview? u = some p) u tree.root := by
    apply Relation.ReflTransGen.mono _ _ _ (h.reaches_root hu)
    intro _ _ hp
    apply h.attach_superview hv hp
  cases hw with
  | inl heq =>
    apply Relation.ReflTransGen.head _ (hold hparent)
    rw [attach_superview?, if_pos heq]
  | inr hw => apply hold hw

theorem attach_descends (h : tree.WellFormed) (hv : v ∉ tree.kinds)
    (hparent : parent ∈ tree.kinds) :
    WellFounded fun u p => ((tree.enter v kind).attach parent v).superview? u = some p := by
  -- nothing lies below the new view, and all others are below the same views as before
  have hleaf : Acc
      (fun u p => ((tree.enter v kind).attach parent v).superview? u = some p) v := by
    constructor
    intro u hu
    rw [attach_superview?] at hu
    split at hu
    · injection hu with hu
      exact absurd (hu ▸ hparent) hv
    · exact absurd (h.superview_mem hu) hv
  constructor
  intro p
  induction p using h.descends.induction with
  | h p ih =>
    constructor
    intro u hu
    rw [attach_superview?] at hu
    split at hu
    · next heq => exact heq ▸ hleaf
    · exact ih u hu

theorem insert (h : tree.WellFormed) (hv : v ∉ tree.kinds)
    (hinsert : tree.insert parent kind v = .ok tree') : tree'.WellFormed := by
  rw [insert_eq_ok_iff, contains_iff_mem] at hinsert
  rcases hinsert with ⟨hparent, rfl⟩
  have hroot : ¬ v = tree.root := fun heq => hv (heq ▸ h.root_mem)
  constructor
  case mem_bounds =>
    intro w
    rw [attach_mem_kinds, ← h.mem_bounds]
    simp only [attach, disarrange, enter, damage, Std.ExtTreeMap.mem_insert,
      Std.LawfulEqOrd.compare_eq_iff_eq]
  case mem_subviewLists =>
    intro w
    rw [attach_mem_kinds, ← h.mem_subviewLists]
    simp only [attach, disarrange, enter, damage, Std.ExtTreeMap.mem_modify,
      Std.ExtTreeMap.mem_insert, Std.LawfulEqOrd.compare_eq_iff_eq]
  case root_mem => exact (attach_mem_kinds tree.root).mpr (Or.inr h.root_mem)
  case superview_root =>
    show ((tree.enter v kind).attach parent v).superview? tree.root = none
    rw [attach_superview?, if_neg hroot]
    apply h.superview_root
  case exists_superview =>
    intro w hw hw'
    cases (attach_mem_kinds w).mp hw with
    | inl heq =>
      refine ⟨parent, (attach_mem_kinds parent).mpr (Or.inr hparent), ?_⟩
      rw [attach_superview?, if_pos heq]
    | inr hw =>
      rcases h.exists_superview hw hw' with ⟨p, hp, hwp⟩
      exact ⟨p, (attach_mem_kinds p).mpr (Or.inr hp), h.attach_superview hv hwp⟩
  case mem_of_superview =>
    intro w p hp
    rw [attach_mem_kinds]
    rw [attach_superview?] at hp
    split at hp
    · next heq => apply Or.inl heq
    · apply Or.inr (h.mem_of_superview hp)
  case count_subviews => exact h.attach_count hv hparent
  case superview_of_mem => exact h.attach_listed hv hparent
  case reaches_root =>
    intro w hw
    apply h.attach_reaches_root hv hparent ((attach_mem_kinds w).mp hw)
  case descends => exact h.attach_descends hv hparent
  case mem_of_group =>
    intro w hw
    exact (attach_mem_kinds w).mpr (Or.inr (h.mem_of_group hw))
  case mem_of_damaged =>
    intro w hw
    rw [attach_mem_kinds]
    exact ((attach_mem_damaged w).mp hw).imp_right h.mem_of_damaged
  case mem_of_unarranged =>
    intro w hw
    rw [attach_mem_kinds]
    cases (attach_mem_unarranged w).mp hw with
    | inl heq => apply Or.inr (heq ▸ hparent)
    | inr hw => apply Or.inr (h.mem_of_unarranged hw)

end WellFormed

theorem ofRoot_wellFormed (root : ViewId) : (ofRoot root : ViewTree K).WellFormed := by
  have hkinds (v : ViewId) : v ∈ (ofRoot root : ViewTree K).kinds ↔ root = v := by
    simp [ofRoot, enter, damage, Std.ExtTreeMap.mem_insert]
  have hsuper (v : ViewId) : (ofRoot root : ViewTree K).superview? v = none := by
    simp [ofRoot, enter, damage, superview?]
  have hlists (p : ViewId) : (ofRoot root : ViewTree K).subviews p = [] := by
    simp only [ofRoot, enter, damage, subviews, Std.ExtTreeMap.getElem?_insert]
    split <;> simp
  constructor
  case mem_bounds => simp [ofRoot, enter, damage, Std.ExtTreeMap.mem_insert]
  case mem_subviewLists => simp [ofRoot, enter, damage, Std.ExtTreeMap.mem_insert]
  case root_mem => exact (hkinds root).mpr rfl
  case superview_root => exact hsuper root
  case exists_superview =>
    intro v hv hroot
    exact absurd ((hkinds v).mp hv).symm hroot
  case mem_of_superview => simp [hsuper]
  case count_subviews => simp [hsuper]
  case superview_of_mem => simp [hlists]
  case reaches_root =>
    intro v hv
    rw [← (hkinds v).mp hv]
    exact .refl
  case descends =>
    constructor
    intro p
    constructor
    simp [hsuper]
  case mem_of_group => simp [ofRoot, enter, damage]
  case mem_of_damaged => simp [ofRoot, enter, damage]
  case mem_of_unarranged => simp [ofRoot, enter, damage]

end Entering

section Placing

variable [Scalar K] (tree : ViewTree K) (v w : ViewId) (bounds : Rect K)

theorem place_fst : (tree.place v bounds).1 = (tree.bounds? v).isSome := by
  unfold place
  split
  · next h => rw [h]; rfl
  · next h =>
    rw [h]
    dsimp only
    split <;> split <;> rfl

theorem place_bounds? :
    (tree.place v bounds).2.bounds? w =
      if v = w then (tree.bounds? w).map fun _ => bounds else tree.bounds? w := by
  unfold place
  split
  · next h =>
    split
    · next heq => rw [← heq, h]; rfl
    · rfl
  · next h =>
    have hw : (tree.bounds.insert v bounds)[w]? =
        if v = w then (tree.bounds? w).map fun _ => bounds else tree.bounds? w := by
      rw [Std.ExtTreeMap.getElem?_insert]
      simp only [Std.LawfulEqOrd.compare_eq_iff_eq]
      split
      · next heq => rw [← heq, h]; rfl
      · rfl
    dsimp only
    split <;> split <;> exact hw

theorem place_root : (tree.place v bounds).2.root = tree.root := by
  unfold place
  repeat' split
  all_goals rfl

theorem place_kinds : (tree.place v bounds).2.kinds = tree.kinds := by
  unfold place
  repeat' split
  all_goals rfl

theorem place_superviews : (tree.place v bounds).2.superviews = tree.superviews := by
  unfold place
  repeat' split
  all_goals rfl

theorem place_subviewLists : (tree.place v bounds).2.subviewLists = tree.subviewLists := by
  unfold place
  repeat' split
  all_goals rfl

theorem place_superview? : (tree.place v bounds).2.superview? w = tree.superview? w := by
  unfold superview?
  rw [place_superviews]

theorem place_bounds?_isSome :
    ((tree.place v bounds).2.bounds? w).isSome = (tree.bounds? w).isSome := by
  rw [place_bounds?]
  split
  · rw [Option.isSome_map]
  · rfl

theorem place_groups : (tree.place v bounds).2.groups = tree.groups := by
  unfold place
  repeat' split
  all_goals rfl

theorem place_mem_damaged :
    w ∈ (tree.place v bounds).2.damaged ↔
      w ∈ tree.damaged ∨ (tree.bounds? v).isSome ∧ (v = w ∨ tree.superview? v = some w) := by
  unfold place
  split
  · next h => simp [h]
  · next h =>
    dsimp only
    split
    · next hp =>
      split <;> simp [damage, disarrange, h, hp, Std.ExtTreeSet.mem_insert, or_comm]
    · next p hp =>
      split <;>
        simp [damage, disarrange, h, hp, Std.ExtTreeSet.mem_insert, or_comm, or_left_comm,
          or_assoc]

theorem place_mem_unarranged :
    w ∈ (tree.place v bounds).2.unarranged ↔
      w ∈ tree.unarranged ∨
        v = w ∧ (tree.bounds? v).any fun current => current.size != bounds.size := by
  unfold place
  split
  · next h => simp [h]
  · next current h =>
    dsimp only
    split
    · split <;> simp_all [damage, disarrange, Std.ExtTreeSet.mem_insert, or_comm]
    · split <;> simp_all [damage, disarrange, Std.ExtTreeSet.mem_insert, or_comm]

end Placing

structure SameShape (tree tree' : ViewTree K) : Prop where
  root_eq : tree'.root = tree.root
  mem_kinds (v : ViewId) : v ∈ tree'.kinds ↔ v ∈ tree.kinds
  mem_bounds (v : ViewId) : v ∈ tree'.bounds ↔ v ∈ tree.bounds
  superviews_eq : tree'.superviews = tree.superviews
  subviewLists_eq : tree'.subviewLists = tree.subviewLists

theorem WellFormed.of_sameShape {tree tree' : ViewTree K} (h : tree.WellFormed)
    (hshape : SameShape tree tree') (hgroups : ∀ v ∈ tree'.groups, v ∈ tree.kinds)
    (hdamaged : ∀ v ∈ tree'.damaged, v ∈ tree.kinds)
    (hunarranged : ∀ v ∈ tree'.unarranged, v ∈ tree.kinds) : tree'.WellFormed := by
  have hsuper (v : ViewId) : tree'.superview? v = tree.superview? v := by
    unfold superview?
    rw [hshape.superviews_eq]
  have hlists (p : ViewId) : tree'.subviews p = tree.subviews p := by
    unfold subviews
    rw [hshape.subviewLists_eq]
  constructor
  case mem_bounds =>
    intro v
    rw [hshape.mem_bounds, hshape.mem_kinds, h.mem_bounds]
  case mem_subviewLists =>
    intro v
    rw [hshape.subviewLists_eq, hshape.mem_kinds, h.mem_subviewLists]
  case root_mem =>
    rw [hshape.mem_kinds, hshape.root_eq]
    apply h.root_mem
  case superview_root =>
    rw [hsuper, hshape.root_eq]
    apply h.superview_root
  case exists_superview =>
    simp only [hshape.mem_kinds, hshape.root_eq, hsuper]
    exact h.exists_superview
  case mem_of_superview =>
    simp only [hshape.mem_kinds, hsuper]
    exact h.mem_of_superview
  case count_subviews =>
    simp only [hlists, hsuper]
    exact h.count_subviews
  case superview_of_mem =>
    simp only [hlists, hsuper]
    exact h.superview_of_mem
  case reaches_root =>
    simp only [hshape.mem_kinds, hshape.root_eq, hsuper]
    exact h.reaches_root
  case descends =>
    simp only [hsuper]
    apply h.descends
  case mem_of_group =>
    simp only [hshape.mem_kinds]
    exact hgroups _
  case mem_of_damaged =>
    simp only [hshape.mem_kinds]
    exact hdamaged _
  case mem_of_unarranged =>
    simp only [hshape.mem_kinds]
    exact hunarranged _

theorem mem_bounds_iff_isSome {tree : ViewTree K} {v : ViewId} :
    v ∈ tree.bounds ↔ (tree.bounds? v).isSome :=
  Std.ExtTreeMap.mem_iff_isSome_getElem?

theorem mem_kinds_iff_isSome {tree : ViewTree K} {v : ViewId} :
    v ∈ tree.kinds ↔ (tree.kind? v).isSome :=
  Std.ExtTreeMap.mem_iff_isSome_getElem?

theorem WellFormed.placed_iff_mem {tree : ViewTree K} (h : tree.WellFormed) {v : ViewId} :
    (tree.bounds? v).isSome ↔ v ∈ tree.kinds := by
  rw [← mem_bounds_iff_isSome, h.mem_bounds]

theorem modifyKind?_effect {tree tree' : ViewTree K} {v : ViewId}
    {change : ViewKind K → ViewKind K} (h : tree.modifyKind? v change = some tree') :
    v ∈ tree.kinds ∧ SameShape tree tree' ∧ tree'.bounds = tree.bounds ∧
      tree'.groups = tree.groups ∧ tree'.damaged = tree.damaged.insert v ∧
      tree'.unarranged = tree.unarranged := by
  unfold modifyKind? at h
  split at h
  · contradiction
  · next kind hkind =>
    injection h with h
    subst h
    have hv : v ∈ tree.kinds := by
      rw [mem_kinds_iff_isSome, hkind]
      rfl
    refine ⟨hv, ⟨rfl, ?_, fun _ => Iff.rfl, rfl, rfl⟩, rfl, rfl, rfl, rfl⟩
    intro w
    simp only [damage, Std.ExtTreeMap.mem_insert, Std.LawfulEqOrd.compare_eq_iff_eq]
    constructor
    · intro hw
      cases hw with
      | inl heq => apply heq ▸ hv
      | inr hw => exact hw
    · apply Or.inr

theorem modifyKind?_kind? {tree tree' : ViewTree K} {v : ViewId}
    {change : ViewKind K → ViewKind K} (h : tree.modifyKind? v change = some tree') (w : ViewId) :
    tree'.kind? w = if v = w then (tree.kind? w).map change else tree.kind? w := by
  unfold modifyKind? at h
  split at h
  · contradiction
  · next kind hkind =>
    injection h with h
    subst h
    unfold kind? damage
    rw [Std.ExtTreeMap.getElem?_insert]
    simp only [Std.LawfulEqOrd.compare_eq_iff_eq]
    split
    · next heq =>
      unfold kind? at hkind
      rw [← heq, hkind]
      rfl
    · rfl

theorem setGroup_eq_ok_iff {tree tree' : ViewTree K} {v : ViewId} {group : Nat} :
    tree.setGroup v group = .ok tree' ↔
      tree.contains v ∧ tree' = { tree with groups := tree.groups.insert v group } := by
  unfold setGroup
  split
  · next h => simp [h, eq_comm]
  · next h => simp [h]

namespace WellFormed

variable {tree tree' : ViewTree K}

theorem mem_of_place [Scalar K] (h : tree.WellFormed) {v : ViewId} {bounds : Rect K}
    (hplace : (tree.place v bounds).1) : v ∈ tree.kinds := by
  rw [place_fst, h.placed_iff_mem] at hplace
  exact hplace

theorem place [Scalar K] (h : tree.WellFormed) (v : ViewId) (bounds : Rect K) :
    (tree.place v bounds).2.WellFormed := by
  apply h.of_sameShape
  · constructor
    case root_eq => apply place_root
    case mem_kinds =>
      intro w
      rw [place_kinds]
    case mem_bounds =>
      intro w
      rw [mem_bounds_iff_isSome, mem_bounds_iff_isSome, place_bounds?_isSome]
    case superviews_eq => apply place_superviews
    case subviewLists_eq => apply place_subviewLists
  · intro w hw
    rw [place_groups] at hw
    apply h.mem_of_group hw
  · intro w hw
    rw [place_mem_damaged, ← mem_bounds_iff_isSome, h.mem_bounds] at hw
    rcases hw with hw | ⟨hv, rfl | hp⟩
    · apply h.mem_of_damaged hw
    · exact hv
    · apply h.superview_mem hp
  · intro w hw
    rw [place_mem_unarranged] at hw
    rcases hw with hw | ⟨rfl, hv⟩
    · apply h.mem_of_unarranged hw
    · rw [← h.placed_iff_mem]
      cases hb : tree.bounds? v with
      | none => simp [hb] at hv
      | some current => rfl

theorem modifyKind? (h : tree.WellFormed) {v : ViewId} {change : ViewKind K → ViewKind K}
    (hmodify : tree.modifyKind? v change = some tree') : tree'.WellFormed := by
  rcases modifyKind?_effect hmodify with ⟨hv, hshape, -, hgroups, hdamaged, hunarranged⟩
  apply h.of_sameShape hshape
  · intro w hw
    rw [hgroups] at hw
    apply h.mem_of_group hw
  · intro w hw
    rw [hdamaged, Std.ExtTreeSet.mem_insert, Std.LawfulEqOrd.compare_eq_iff_eq] at hw
    cases hw with
    | inl heq => apply heq ▸ hv
    | inr hw => apply h.mem_of_damaged hw
  · intro w hw
    rw [hunarranged] at hw
    apply h.mem_of_unarranged hw

theorem setGroup (h : tree.WellFormed) {v : ViewId} {group : Nat}
    (hset : tree.setGroup v group = .ok tree') : tree'.WellFormed := by
  rw [setGroup_eq_ok_iff] at hset
  rcases hset with ⟨hv, rfl⟩
  apply h.of_sameShape
  · exact ⟨rfl, fun _ => Iff.rfl, fun _ => Iff.rfl, rfl, rfl⟩
  · intro w hw
    simp only [Std.ExtTreeMap.mem_insert, Std.LawfulEqOrd.compare_eq_iff_eq] at hw
    cases hw with
    | inl heq => apply heq ▸ contains_iff_mem.mp hv
    | inr hw => apply h.mem_of_group hw
  · apply fun w hw => h.mem_of_damaged hw
  · apply fun w hw => h.mem_of_unarranged hw

theorem takeDamaged (h : tree.WellFormed) : tree.takeDamaged.2.WellFormed := by
  apply h.of_sameShape
  · exact ⟨rfl, fun _ => Iff.rfl, fun _ => Iff.rfl, rfl, rfl⟩
  · apply fun w hw => h.mem_of_group hw
  · intro w hw
    simp [ViewTree.takeDamaged] at hw
  · apply fun w hw => h.mem_of_unarranged hw

theorem takeUnarranged (h : tree.WellFormed) : tree.takeUnarranged.2.WellFormed := by
  apply h.of_sameShape
  · exact ⟨rfl, fun _ => Iff.rfl, fun _ => Iff.rfl, rfl, rfl⟩
  · apply fun w hw => h.mem_of_group hw
  · apply fun w hw => h.mem_of_damaged hw
  · intro w hw
    simp [ViewTree.takeUnarranged] at hw

end WellFormed

end ViewMotion.ViewTree
