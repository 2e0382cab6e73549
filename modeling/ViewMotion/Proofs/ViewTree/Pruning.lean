import ViewMotion.Proofs.ViewTree.Operations

/-!
This module contains what is left of a well-formed tree when views are removed from it. Removal and
clearing both cut a set of views out of the list of a single view, the site, and then forget them.
-/

namespace ViewMotion.ViewTree

variable {K : Type}

structure Pruned (tree tree' : ViewTree K) (site : ViewId) (gone : List ViewId) : Prop where
  root_eq : tree'.root = tree.root
  kind?_eq (v : ViewId) : tree'.kind? v = if v ∈ gone then none else tree.kind? v
  bounds?_eq (v : ViewId) : tree'.bounds? v = if v ∈ gone then none else tree.bounds? v
  superview?_eq (v : ViewId) : tree'.superview? v = if v ∈ gone then none else tree.superview? v
  group?_eq (v : ViewId) : tree'.group? v = if v ∈ gone then none else tree.group? v
  mem_subviewLists (v : ViewId) : v ∈ tree'.subviewLists ↔ v ∉ gone ∧ v ∈ tree.subviewLists
  subviews_eq (p : ViewId) :
    tree'.subviews p = if p ∈ gone then [] else (tree.subviews p).filter (· ∉ gone)
  mem_damaged (v : ViewId) : v ∈ tree'.damaged ↔ v ∉ gone ∧ (site = v ∨ v ∈ tree.damaged)
  mem_unarranged (v : ViewId) :
    v ∈ tree'.unarranged ↔ v ∉ gone ∧ (site = v ∨ v ∈ tree.unarranged)

def cut (tree : ViewTree K) (site : ViewId) (change : List ViewId → List ViewId) : ViewTree K :=
  { tree with subviewLists := tree.subviewLists.modify site change }
    |>.disarrange site
    |>.damage site

section Cutting

variable {tree : ViewTree K} {site : ViewId} {change : List ViewId → List ViewId}

theorem cut_subviews (hsite : site ∈ tree.subviewLists) (p : ViewId) :
    (tree.cut site change).subviews p =
      if site = p then change (tree.subviews site) else tree.subviews p := by
  simp only [cut, damage, disarrange, subviews, Std.ExtTreeMap.getElem?_modify,
    Std.LawfulEqOrd.compare_eq_iff_eq]
  split
  · next heq =>
    subst heq
    rw [Std.ExtTreeMap.mem_iff_isSome_getElem?, Option.isSome_iff_exists] at hsite
    rcases hsite with ⟨old, hold⟩
    rw [hold]
    rfl
  · rfl

theorem cut_encloses_iff (hsite : site ∈ tree.subviewLists) (hchange : ∀ vs, change vs ⊆ vs)
    {v : ViewId} (hv : ¬ tree.Encloses v site) (w : ViewId) :
    (tree.cut site change).Encloses v w ↔ tree.Encloses v w := by
  constructor
  · apply Encloses.mono
    intro p
    rw [cut_subviews hsite]
    split
    · next heq =>
      rw [← heq]
      apply hchange
    · exact fun _ hu => hu
  · intro h
    -- no path from `v` passes through the list that is cut
    induction h with
    | refl => exact .refl
    | @tail x y hx hy ih =>
      apply ih.tail
      rw [cut_subviews hsite, if_neg]
      · exact hy
      · intro heq
        apply hv (heq ▸ hx)

/--
Only the site's list loses views, if what goes is listed for the site or for a view that goes.
-/
theorem filter_subviews_eq_self {gone : List ViewId}
    (hup : ∀ p, ∀ v ∈ tree.subviews p, v ∈ gone → p = site ∨ p ∈ gone) {p : ViewId}
    (hp : p ∉ gone) (hne : p ≠ site) :
    (tree.subviews p).filter (· ∉ gone) = tree.subviews p := by
  rw [List.filter_eq_self]
  intro v hv
  rw [decide_eq_true_iff]
  intro hgone
  cases hup p v hv hgone with
  | inl heq => apply hne heq
  | inr hgone => apply hp hgone

theorem cut_pruned {gone : List ViewId} (hsite : site ∈ tree.subviewLists)
    (hchange : change (tree.subviews site) = (tree.subviews site).filter (· ∉ gone))
    (hup : ∀ p, ∀ v ∈ tree.subviews p, v ∈ gone → p = site ∨ p ∈ gone) :
    Pruned tree ((tree.cut site change).forgetAll gone) site gone := by
  constructor
  case root_eq =>
    rw [forgetAll_root]
    rfl
  case kind?_eq =>
    intro v
    rw [forgetAll_look kind? forget_kind?]
    rfl
  case bounds?_eq =>
    intro v
    rw [forgetAll_look bounds? forget_bounds?]
    rfl
  case superview?_eq =>
    intro v
    rw [forgetAll_look superview? forget_superview?]
    rfl
  case group?_eq =>
    intro v
    rw [forgetAll_look group? forget_group?]
    rfl
  case mem_subviewLists =>
    intro v
    rw [Std.ExtTreeMap.mem_iff_isSome_getElem?,
      forgetAll_look (fun tree v => tree.subviewLists[v]?) forget_subviewLists]
    split
    · next hv => simp [hv]
    · next hv => simp [cut, damage, disarrange, hv, Std.ExtTreeMap.mem_modify]
  case subviews_eq =>
    intro p
    rw [forgetAll_subviews, cut_subviews hsite]
    split
    · rfl
    · next hp =>
      split
      · next heq => rw [← heq, hchange]
      · next hne => rw [filter_subviews_eq_self hup hp fun heq => hne heq.symm]
  case mem_damaged =>
    intro v
    rw [← Std.ExtTreeSet.contains_iff_mem,
      forgetAll_look (fun tree v => tree.damaged.contains v) forget_damaged]
    split
    · next hv => simp [hv]
    · next hv => simp [cut, damage, disarrange, hv]
  case mem_unarranged =>
    intro v
    rw [← Std.ExtTreeSet.contains_iff_mem,
      forgetAll_look (fun tree v => tree.unarranged.contains v) forget_unarranged]
    split
    · next hv => simp [hv]
    · next hv => simp [cut, damage, disarrange, hv]

theorem detach_eq_cut {v : ViewId} (hp : tree.superview? v = some site) :
    tree.detach v = tree.cut site (·.filter (· != v)) := by
  unfold detach
  rw [hp]
  rfl

theorem forget_mark {u : ViewId} (h : u ≠ site) :
    ((tree.forget u).disarrange site).damage site =
      ((tree.disarrange site).damage site).forget u := by
  have commute (views : Std.ExtTreeSet ViewId) :
      (views.erase u).insert site = (views.insert site).erase u := by
    apply Std.ExtTreeSet.ext_mem
    intro w
    simp only [Std.ExtTreeSet.mem_insert, Std.ExtTreeSet.mem_erase, ne_eq,
      Std.LawfulEqOrd.compare_eq_iff_eq]
    by_cases hw : site = w
    · have hu : ¬ u = w := fun heq => h (heq.trans hw.symm)
      simp [hw, hu]
    · simp [hw]
  simp only [forget, disarrange, damage, commute]

theorem forgetAll_mark {gone : List ViewId} (h : site ∉ gone) :
    ((tree.forgetAll gone).disarrange site).damage site =
      ((tree.disarrange site).damage site).forgetAll gone := by
  induction gone generalizing tree with
  | nil => rfl
  | cons u gone ih =>
    rw [List.mem_cons, not_or] at h
    have step : (((tree.forget u).forgetAll gone).disarrange site).damage site =
        (((tree.forget u).disarrange site).damage site).forgetAll gone := ih h.2
    rw [forget_mark fun heq => h.1 heq.symm] at step
    exact step

theorem insert_nil_eq_modify (hsite : site ∈ tree.subviewLists) :
    tree.subviewLists.insert site [] = tree.subviewLists.modify site fun _ => [] := by
  apply Std.ExtTreeMap.ext_getElem?
  intro p
  rw [Std.ExtTreeMap.getElem?_insert, Std.ExtTreeMap.getElem?_modify]
  split
  · rw [Std.ExtTreeMap.mem_iff_isSome_getElem?, Option.isSome_iff_exists] at hsite
    rcases hsite with ⟨old, hold⟩
    rw [hold]
    rfl
  · rfl

end Cutting

namespace WellFormed

variable {tree tree' : ViewTree K} {v : ViewId}

/--
What goes with a view is listed for its superview, or for a view that goes as well.
-/
theorem site_or_encloses (h : tree.WellFormed) {p q u : ViewId} (hp : tree.superview? v = some p)
    (hu : u ∈ tree.subviews q) (henc : tree.Encloses v u) : q = p ∨ tree.Encloses v q := by
  cases h.encloses_cases henc hu with
  | inl heq =>
    have hq : some q = some p := by
      rw [← h.superview_of_mem hu, heq, hp]
    injection hq with hq
    exact Or.inl hq
  | inr henc => exact Or.inr henc

theorem site_or_encloses_of_ne (h : tree.WellFormed) {q u : ViewId} (hu : u ∈ tree.subviews q)
    (hgone : u ≠ v ∧ tree.Encloses v u) : q = v ∨ q ≠ v ∧ tree.Encloses v q := by
  by_cases hq : q = v
  · exact Or.inl hq
  · exact Or.inr ⟨hq, (h.encloses_cases hgone.2 hu).resolve_left hgone.1⟩

theorem remove_pruned (h : tree.WellFormed) (hremove : tree.remove v = .ok tree') :
    ∃ p gone, tree.superview? v = some p ∧ Pruned tree tree' p gone ∧
      ∀ w, w ∈ gone ↔ tree.Encloses v w := by
  unfold ViewTree.remove at hremove
  split at hremove
  · contradiction
  · next hroot =>
    split at hremove
    · next hv =>
      injection hremove with hremove
      subst hremove
      rcases h.exists_superview (contains_iff_mem.mp hv) hroot with ⟨p, -, hp⟩
      have hlisted : v ∈ tree.subviews p := h.mem_subviews_iff.mpr hp
      have hsite : p ∈ tree.subviewLists := mem_subviewLists_of_mem hlisted
      have habove : ¬ tree.Encloses v p := h.not_encloses_superview hp
      rw [detach_eq_cut hp]
      rcases forgetSubtree_forgets (tree.cut p (·.filter (· != v))) v with ⟨gone, hgone, hmem⟩
      have hmem' (w : ViewId) : w ∈ gone ↔ tree.Encloses v w := by
        rw [hmem, cut_encloses_iff hsite (fun vs => List.filter_sublist.subset) habove]
      refine ⟨p, gone, hp, ?_, hmem'⟩
      rw [hgone]
      apply cut_pruned hsite
      · apply List.filter_congr
        intro u hu
        rw [Bool.eq_iff_iff, bne_iff_ne, decide_eq_true_iff, hmem',
          h.encloses_sibling_iff hlisted hu]
      · intro q u hu hug
        rw [hmem'] at hug ⊢
        exact h.site_or_encloses hp hu hug
    · contradiction

theorem clear_pruned (h : tree.WellFormed) (hclear : tree.clear v = .ok tree') :
    ∃ gone, Pruned tree tree' v gone ∧ ∀ w, w ∈ gone ↔ w ≠ v ∧ tree.Encloses v w := by
  unfold ViewTree.clear at hclear
  split at hclear
  · contradiction
  · next vs hvs =>
    injection hclear with hclear
    have hsite : v ∈ tree.subviewLists := by
      rw [Std.ExtTreeMap.mem_iff_isSome_getElem?, hvs]
      rfl
    have hlist : tree.subviews v = vs := by
      unfold subviews
      rw [hvs]
      rfl
    rw [insert_nil_eq_modify hsite, ← hlist] at hclear
    generalize hemptied : ({ tree with
      subviewLists := tree.subviewLists.modify v fun _ => [] } : ViewTree K) = emptied at hclear
    have hcut : (emptied.disarrange v).damage v = tree.cut v fun _ => [] := by
      rw [← hemptied]
      rfl
    rcases foldl_forgetSubtree_forgets (tree.subviews v) emptied with ⟨gone, hgone, hmem⟩
    have hbelow {u : ViewId} (hu : u ∈ tree.subviews v) (w : ViewId) :
        emptied.Encloses u w ↔ tree.Encloses u w := by
      have habove : ¬ tree.Encloses u v := h.not_encloses_superview (h.superview_of_mem hu)
      rw [← cut_encloses_iff hsite (fun vs => List.nil_subset vs) habove, ← hcut]
      rfl
    have hmem' (w : ViewId) : w ∈ gone ↔ w ≠ v ∧ tree.Encloses v w := by
      rw [hmem, ← h.exists_encloses_iff]
      apply exists_congr
      intro u
      apply and_congr_right
      exact fun hu => hbelow hu w
    refine ⟨gone, ?_, hmem'⟩
    have hv : v ∉ gone := by
      rw [hmem']
      exact fun hv => hv.1 rfl
    rw [hgone, forgetAll_mark hv, hcut] at hclear
    rw [← hclear]
    apply cut_pruned hsite
    · symm
      rw [List.filter_eq_nil_iff]
      intro u hu
      rw [decide_eq_true_iff, not_not, hmem', ← h.exists_encloses_iff]
      exact ⟨u, hu, .refl⟩
    · intro q u hu hug
      rw [hmem'] at hug ⊢
      exact h.site_or_encloses_of_ne hu hug

end WellFormed

namespace Pruned

variable {tree tree' : ViewTree K} {site : ViewId} {gone gone' : List ViewId}

theorem congr (h : Pruned tree tree' site gone) (hgone : ∀ v, v ∈ gone' ↔ v ∈ gone) :
    Pruned tree tree' site gone' where
  root_eq := h.root_eq
  kind?_eq v := by simp only [h.kind?_eq, hgone]
  bounds?_eq v := by simp only [h.bounds?_eq, hgone]
  superview?_eq v := by simp only [h.superview?_eq, hgone]
  group?_eq v := by simp only [h.group?_eq, hgone]
  mem_subviewLists v := by rw [h.mem_subviewLists, hgone]
  subviews_eq p := by simp only [h.subviews_eq, hgone]
  mem_damaged v := by rw [h.mem_damaged, hgone]
  mem_unarranged v := by rw [h.mem_unarranged, hgone]

theorem mem_kinds (h : Pruned tree tree' site gone) (v : ViewId) :
    v ∈ tree'.kinds ↔ v ∉ gone ∧ v ∈ tree.kinds := by
  rw [mem_kinds_iff_isSome, mem_kinds_iff_isSome, h.kind?_eq]
  split
  · next hv => simp [hv]
  · next hv => simp [hv]

theorem mem_bounds (h : Pruned tree tree' site gone) (v : ViewId) :
    v ∈ tree'.bounds ↔ v ∉ gone ∧ v ∈ tree.bounds := by
  rw [mem_bounds_iff_isSome, mem_bounds_iff_isSome, h.bounds?_eq]
  split
  · next hv => simp [hv]
  · next hv => simp [hv]

theorem mem_groups (h : Pruned tree tree' site gone) {v : ViewId} (hv : v ∈ tree'.groups) :
    v ∉ gone ∧ v ∈ tree.groups := by
  rw [Std.ExtTreeMap.mem_iff_isSome_getElem?] at hv ⊢
  change (tree'.group? v).isSome at hv
  rw [h.group?_eq] at hv
  split at hv
  · contradiction
  · next hgone => exact ⟨hgone, hv⟩

theorem superview?_eq_some_iff (h : Pruned tree tree' site gone) {v p : ViewId} :
    tree'.superview? v = some p ↔ v ∉ gone ∧ tree.superview? v = some p := by
  rw [h.superview?_eq]
  split
  · next hv => simp [hv]
  · next hv => simp [hv]

theorem mem_subviews_iff (h : Pruned tree tree' site gone) {v p : ViewId} :
    v ∈ tree'.subviews p ↔ p ∉ gone ∧ v ∉ gone ∧ v ∈ tree.subviews p := by
  rw [h.subviews_eq]
  split
  · next hp => simp [hp]
  · next hp => simp [hp, and_comm]

end Pruned

theorem WellFormed.of_pruned {tree tree' : ViewTree K} {site : ViewId} {gone : List ViewId}
    (h : tree.WellFormed) (hpruned : Pruned tree tree' site gone) (hroot : tree.root ∉ gone)
    (hsite : site ∈ tree.kinds)
    (hdown : ∀ {v p}, tree.superview? v = some p → p ∈ gone → v ∈ gone) : tree'.WellFormed := by
  constructor
  case mem_bounds =>
    intro v
    rw [hpruned.mem_bounds, hpruned.mem_kinds, h.mem_bounds]
  case mem_subviewLists =>
    intro v
    rw [hpruned.mem_subviewLists, hpruned.mem_kinds, h.mem_subviewLists]
  case root_mem =>
    rw [hpruned.root_eq, hpruned.mem_kinds]
    exact ⟨hroot, h.root_mem⟩
  case superview_root =>
    rw [hpruned.root_eq, hpruned.superview?_eq, if_neg hroot]
    apply h.superview_root
  case exists_superview =>
    intro v hv hne
    rw [hpruned.mem_kinds] at hv
    rw [hpruned.root_eq] at hne
    rcases h.exists_superview hv.2 hne with ⟨p, hp, hvp⟩
    refine ⟨p, (hpruned.mem_kinds p).mpr ⟨?_, hp⟩, hpruned.superview?_eq_some_iff.mpr ⟨hv.1, hvp⟩⟩
    apply fun hgone => hv.1 (hdown hvp hgone)
  case mem_of_superview =>
    intro v p hp
    rw [hpruned.superview?_eq_some_iff] at hp
    exact (hpruned.mem_kinds v).mpr ⟨hp.1, h.mem_of_superview hp.2⟩
  case count_subviews =>
    intro v p hp
    rw [hpruned.superview?_eq_some_iff] at hp
    have hp' : p ∉ gone := fun hgone => hp.1 (hdown hp.2 hgone)
    rw [hpruned.subviews_eq, if_neg hp', List.count_filter (by simpa using hp.1)]
    apply h.count_subviews hp.2
  case superview_of_mem =>
    intro v p hv
    rw [hpruned.mem_subviews_iff] at hv
    apply hpruned.superview?_eq_some_iff.mpr ⟨hv.2.1, h.superview_of_mem hv.2.2⟩
  case reaches_root =>
    intro v hv
    rw [hpruned.mem_kinds] at hv
    rw [hpruned.root_eq]
    -- the way up from a view that is left meets only views that are left
    have hleft := hv.1
    induction h.reaches_root hv.2 using Relation.ReflTransGen.head_induction_on with
    | refl => exact .refl
    | head hup _ ih =>
      have hnext : _ ∉ gone := fun hgone => hleft (hdown hup hgone)
      have hmem := h.superview_mem hup
      exact (ih ⟨hnext, hmem⟩ hnext).head (hpruned.superview?_eq_some_iff.mpr ⟨hleft, hup⟩)
  case descends =>
    apply Subrelation.wf _ h.descends
    intro v p hp
    exact (hpruned.superview?_eq_some_iff.mp hp).2
  case mem_of_group =>
    intro v hv
    have hv := hpruned.mem_groups hv
    exact (hpruned.mem_kinds v).mpr ⟨hv.1, h.mem_of_group hv.2⟩
  case mem_of_damaged =>
    intro v hv
    rw [hpruned.mem_damaged] at hv
    rw [hpruned.mem_kinds]
    refine ⟨hv.1, ?_⟩
    cases hv.2 with
    | inl heq => apply heq ▸ hsite
    | inr hv => apply h.mem_of_damaged hv
  case mem_of_unarranged =>
    intro v hv
    rw [hpruned.mem_unarranged] at hv
    rw [hpruned.mem_kinds]
    refine ⟨hv.1, ?_⟩
    cases hv.2 with
    | inl heq => apply heq ▸ hsite
    | inr hv => apply h.mem_of_unarranged hv

namespace WellFormed

variable {tree tree' : ViewTree K} {v : ViewId}

theorem remove (h : tree.WellFormed) (hremove : tree.remove v = .ok tree') :
    tree'.WellFormed := by
  rcases h.remove_pruned hremove with ⟨p, gone, hp, hpruned, hmem⟩
  apply h.of_pruned hpruned
  · rw [hmem]
    apply h.not_encloses_root
    intro heq
    rw [heq, h.superview_root] at hp
    contradiction
  · apply h.superview_mem hp
  · intro u q hu hq
    rw [hmem] at hq ⊢
    apply h.encloses_superview hu hq

theorem mem_of_clear (h : tree.WellFormed) (hclear : tree.clear v = .ok tree') :
    v ∈ tree.kinds := by
  unfold ViewTree.clear at hclear
  split at hclear
  · contradiction
  · next vs hvs =>
    rw [← h.mem_subviewLists, Std.ExtTreeMap.mem_iff_isSome_getElem?, hvs]
    rfl

theorem clear (h : tree.WellFormed) (hclear : tree.clear v = .ok tree') : tree'.WellFormed := by
  rcases h.clear_pruned hclear with ⟨gone, hpruned, hmem⟩
  apply h.of_pruned hpruned
  · rw [hmem]
    intro ⟨hne, hroot⟩
    apply h.not_encloses_root hne.symm hroot
  · apply h.mem_of_clear hclear
  · intro u q hu hq
    rw [hmem] at hq ⊢
    refine ⟨?_, h.encloses_superview hu hq.2⟩
    intro heq
    apply h.not_encloses_superview hu (heq ▸ hq.2)

end WellFormed

end ViewMotion.ViewTree
