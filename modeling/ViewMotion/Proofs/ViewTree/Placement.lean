import ViewMotion.Proofs.LawfulScalar
import ViewMotion.Proofs.Motion.Order
import ViewMotion.Proofs.ViewTree.Arrangement

/-!
This module contains plans, which give bounds to several views one after the other. A plan that says
one thing about each view does nothing when it is carried out again.
-/

namespace ViewMotion.ViewTree

variable {K : Type} [Scalar K] {tree after : ViewTree K} {v w : ViewId} {bounds : Rect K}

section Settling

/--
The view is gone or has the bounds already, and everybody who has to know does.
-/
def Settled (v : ViewId) (bounds : Rect K) (tree : ViewTree K) : Prop :=
  (tree.place v bounds).2 = tree

theorem Settled.bounds?_eq (h : Settled v bounds tree) {current : Rect K}
    (hcurrent : tree.bounds? v = some current) : current = bounds := by
  have hplaced := tree.place_bounds? v v bounds
  rw [h, if_pos rfl, hcurrent, Option.map_some] at hplaced
  injection hplaced

theorem Settled.place (h : Settled v bounds tree) (hne : v ≠ w) (other : Rect K) :
    Settled v bounds (tree.place w other).2 := by
  unfold Settled at h ⊢
  rw [tree.place_comm other bounds hne.symm, h]

theorem place_modifyKind? {change : ViewKind K → ViewKind K}
    (h : tree.modifyKind? w change = some after) (v : ViewId) (bounds : Rect K) :
    (tree.place v bounds).2.modifyKind? w change = some (after.place v bounds).2 := by
  rcases modifyKind?_effect h with ⟨hw, hshape, hbounds_eq, hgroups, hdamaged_eq, hunarranged_eq⟩
  have hkind : ∃ kind, tree.kind? w = some kind := by
    rw [← Option.isSome_iff_exists, ← mem_kinds_iff_isSome]
    exact hw
  rcases hkind with ⟨kind, hkind⟩
  have hbounds? (u : ViewId) : after.bounds? u = tree.bounds? u := by
    unfold bounds?
    rw [hbounds_eq]
  have hsuper (u : ViewId) : after.superview? u = tree.superview? u := by
    unfold superview?
    rw [hshape.superviews_eq]
  have hbounds : (after.place v bounds).2.bounds = (tree.place v bounds).2.bounds := by
    apply Std.ExtTreeMap.ext_getElem?
    intro u
    change ViewTree.bounds? _ u = ViewTree.bounds? _ u
    simp only [place_bounds?, hbounds?]
  have hdamaged : (after.place v bounds).2.damaged =
      (tree.place v bounds).2.damaged.insert w := by
    apply Std.ExtTreeSet.ext_mem
    intro u
    simp only [place_mem_damaged, hbounds?, hsuper, hdamaged_eq, Std.ExtTreeSet.mem_insert,
      or_assoc]
  have hunarranged : (after.place v bounds).2.unarranged = (tree.place v bounds).2.unarranged := by
    apply Std.ExtTreeSet.ext_mem
    intro u
    simp only [place_mem_unarranged, hbounds?, hunarranged_eq]
  have hplaced : (tree.place v bounds).2.kind? w = some kind := by
    unfold kind?
    rw [place_kinds]
    exact hkind
  unfold modifyKind? at h ⊢
  rw [hkind] at h
  injection h with h
  rw [hplaced, Option.some.injEq, ViewTree.mk.injEq]
  simp only [damage, place_root, place_kinds, place_superviews, place_subviewLists, place_groups,
    hbounds, hdamaged, hunarranged]
  rw [← h]
  exact ⟨rfl, rfl, trivial, rfl, rfl, rfl, trivial, trivial⟩

theorem Settled.modifyKind? {change : ViewKind K → ViewKind K} (h : Settled v bounds tree)
    (hafter : tree.modifyKind? w change = some after) : Settled v bounds after := by
  have hplaced := place_modifyKind? hafter v bounds
  unfold Settled at h ⊢
  rw [h, hafter] at hplaced
  injection hplaced with hplaced
  exact hplaced.symm

omit [Scalar K] in
theorem mem_damaged_of_modifyKind? {change : ViewKind K → ViewKind K}
    (h : tree.modifyKind? w change = some after) : w ∈ after.damaged := by
  rw [(modifyKind?_effect h).2.2.2.2.1]
  exact Std.ExtTreeSet.mem_insert_self

omit [Scalar K] in
theorem modifyKind?_eq_self {kind : ViewKind K} {change : ViewKind K → ViewKind K}
    (hkind : tree.kind? w = some kind) (hchange : change kind = kind) (hmem : w ∈ tree.damaged) :
    tree.modifyKind? w change = some tree := by
  have hkinds : tree.kinds.insert w kind = tree.kinds := by
    apply Std.ExtTreeMap.ext_getElem?
    intro u
    rw [Std.ExtTreeMap.getElem?_insert]
    split
    · next heq => rw [← Std.LawfulEqOrd.eq_of_compare heq, ← hkind, kind?]
    · rfl
  have hdamaged : tree.damaged.insert w = tree.damaged := by
    apply Std.ExtTreeSet.ext_mem
    intro u
    rw [Std.ExtTreeSet.mem_insert, or_iff_right_iff_imp]
    intro heq
    rw [← Std.LawfulEqOrd.eq_of_compare heq]
    exact hmem
  unfold modifyKind?
  rw [hkind]
  dsimp only
  rw [hchange, damage, hkinds, hdamaged]

variable [LawfulScalar K]

theorem place_settled (v : ViewId) (bounds : Rect K) (tree : ViewTree K) :
    Settled v bounds (tree.place v bounds).2 := by
  have hbounds : ((tree.place v bounds).2.place v bounds).2.bounds =
      (tree.place v bounds).2.bounds := by
    apply Std.ExtTreeMap.ext_getElem?
    intro u
    change ViewTree.bounds? _ u = ViewTree.bounds? _ u
    rw [place_bounds?, place_bounds?]
    split
    · rw [Option.map_map]
      rfl
    · rfl
  have hdamaged : ((tree.place v bounds).2.place v bounds).2.damaged =
      (tree.place v bounds).2.damaged := by
    apply Std.ExtTreeSet.ext_mem
    intro u
    simp only [place_mem_damaged, place_superview?, place_bounds?_isSome, or_assoc, or_self]
  have hunarranged : ((tree.place v bounds).2.place v bounds).2.unarranged =
      (tree.place v bounds).2.unarranged := by
    apply Std.ExtTreeSet.ext_mem
    intro u
    rw [place_mem_unarranged, or_iff_left_iff_imp]
    rintro ⟨rfl, hany⟩
    rw [place_bounds?, if_pos rfl, Option.any_map] at hany
    rw [place_mem_unarranged]
    refine Or.inr ⟨rfl, ?_⟩
    cases hcurrent : tree.bounds? v with
    | none =>
      rw [hcurrent] at hany
      contradiction
    | some current =>
      rw [hcurrent] at hany
      exact Size.bne_of_bne_self hany current.size
  unfold Settled
  rw [ViewTree.mk.injEq]
  simp only [place_root, place_kinds, place_superviews, place_subviewLists, place_groups,
    true_and]
  exact ⟨hbounds, hdamaged, hunarranged⟩

end Settling

section Keeping

variable {views views' : Set ViewId} {next : ViewTree K}

/--
What is there to be seen of the views that are not among `views` is as before, and so is the room
that any view asks for.
-/
structure Keeps (views : Set ViewId) (tree after : ViewTree K) : Prop where
  naturalSize_eq : after.naturalSize = tree.naturalSize
  bounds?_eq {v : ViewId} (hv : v ∉ views) : after.bounds? v = tree.bounds? v
  settled {v : ViewId} {bounds : Rect K} (hv : v ∉ views) (h : Settled v bounds tree) :
    Settled v bounds after

namespace Keeps

theorem refl (views : Set ViewId) (tree : ViewTree K) : Keeps views tree tree where
  naturalSize_eq := rfl
  bounds?_eq _ := rfl
  settled _ h := h

theorem trans (h : Keeps views tree next) (h' : Keeps views next after) :
    Keeps views tree after where
  naturalSize_eq := h'.naturalSize_eq.trans h.naturalSize_eq
  bounds?_eq hv := (h'.bounds?_eq hv).trans (h.bounds?_eq hv)
  settled hv hsettled := h'.settled hv (h.settled hv hsettled)

theorem mono (h : Keeps views tree after) (hviews : views ⊆ views') : Keeps views' tree after where
  naturalSize_eq := h.naturalSize_eq
  bounds?_eq hv := h.bounds?_eq fun hmem => hv (hviews hmem)
  settled hv := h.settled fun hmem => hv (hviews hmem)

end Keeps

theorem place_keeps (hv : v ∈ views) (bounds : Rect K) (tree : ViewTree K) :
    Keeps views tree (tree.place v bounds).2 where
  naturalSize_eq := funext (tree.place_moved bounds hv).naturalSize_eq
  bounds?_eq := (tree.place_moved bounds hv).bounds?_eq
  settled {_} _ hw h := h.place (fun heq => hw (heq ▸ hv)) bounds

theorem modifyKind?_keeps {change : ViewKind K → ViewKind K}
    (h : tree.modifyKind? w change = some after)
    (hchange : ∀ kind : ViewKind K, (change kind).naturalSize = kind.naturalSize) :
    Keeps ∅ tree after where
  naturalSize_eq := by
    funext v
    unfold naturalSize
    rw [modifyKind?_kind? h]
    split
    · rw [Option.map_map]
      congr 2
      exact funext hchange
    · rfl
  bounds?_eq _ := by
    unfold bounds?
    rw [(modifyKind?_effect h).2.2.1]
  settled _ hsettled := hsettled.modifyKind? h

end Keeping

section Planning

variable {plan : List (ViewId × Rect K)}

def placeAll (plan : List (ViewId × Rect K)) (tree : ViewTree K) : ViewTree K :=
  plan.foldl (fun tree entry => (tree.place entry.1 entry.2).2) tree

theorem placeAll_nil (tree : ViewTree K) : tree.placeAll [] = tree := rfl

theorem placeAll_cons (entry : ViewId × Rect K) (plan : List (ViewId × Rect K))
    (tree : ViewTree K) :
    tree.placeAll (entry :: plan) = (tree.place entry.1 entry.2).2.placeAll plan := rfl

theorem placeAll_append (plan others : List (ViewId × Rect K)) (tree : ViewTree K) :
    tree.placeAll (plan ++ others) = (tree.placeAll plan).placeAll others :=
  List.foldl_append

theorem placeAll_kinds (plan : List (ViewId × Rect K)) (tree : ViewTree K) :
    (tree.placeAll plan).kinds = tree.kinds := by
  induction plan generalizing tree with
  | nil => rfl
  | cons entry plan ih => rw [placeAll_cons, ih, place_kinds]

theorem placeAll_keeps (plan : List (ViewId × Rect K)) (tree : ViewTree K) :
    Keeps {v | v ∈ plan.map Prod.fst} tree (tree.placeAll plan) := by
  induction plan generalizing tree with
  | nil => exact Keeps.refl _ tree
  | cons entry plan ih =>
    apply (place_keeps _ entry.2 tree).trans ((ih _).mono _)
    · exact List.mem_cons_self
    · exact fun v hv => List.mem_cons_of_mem _ hv

theorem placeAll_bounds? (hnodup : (plan.map Prod.fst).Nodup) (h : (v, bounds) ∈ plan) :
    (tree.placeAll plan).bounds? v = (tree.bounds? v).map fun _ => bounds := by
  induction plan generalizing tree with
  | nil => contradiction
  | cons entry plan ih =>
    rw [List.map_cons, List.nodup_cons] at hnodup
    rw [placeAll_cons]
    cases List.mem_cons.mp h with
    | inl heq =>
      subst heq
      rw [(placeAll_keeps plan _).bounds?_eq hnodup.1, place_bounds?, if_pos rfl]
    | inr hmem =>
      have hne : entry.1 ≠ v := by
        intro heq
        apply hnodup.1
        rw [heq]
        exact List.mem_map_of_mem hmem
      rw [ih hnodup.2 hmem, place_bounds?, if_neg hne]

theorem placeAll_eq_self (h : ∀ entry ∈ plan, Settled entry.1 entry.2 tree) :
    tree.placeAll plan = tree := by
  induction plan with
  | nil => rfl
  | cons entry plan ih =>
    have hfirst : (tree.place entry.1 entry.2).2 = tree := h entry List.mem_cons_self
    rw [placeAll_cons, hfirst]
    exact ih fun e he => h e (List.mem_cons_of_mem entry he)

theorem placeAll_settled [LawfulScalar K] (hnodup : (plan.map Prod.fst).Nodup)
    (tree : ViewTree K) : ∀ entry ∈ plan, Settled entry.1 entry.2 (tree.placeAll plan) := by
  induction plan generalizing tree with
  | nil => exact fun _ hentry => absurd hentry List.not_mem_nil
  | cons first plan ih =>
    rw [List.map_cons, List.nodup_cons] at hnodup
    intro entry hentry
    cases List.mem_cons.mp hentry with
    | inl heq =>
      rw [heq]
      exact (placeAll_keeps plan _).settled hnodup.1 (place_settled first.1 first.2 tree)
    | inr hmem => exact ih hnodup.2 _ entry hmem

end Planning

end ViewMotion.ViewTree

namespace ViewMotion.Layout

variable {K ε α β : Type}

theorem require_some_bind_eq (v : ViewId) (a : α) (next : α → EStateM ViewError (ViewTree K) β)
    (tree : ViewTree K) : (require v (some a) >>= next) tree = next a tree := rfl

theorem require_none_bind_eq (v : ViewId) (next : α → EStateM ViewError (ViewTree K) β)
    (tree : ViewTree K) : (require v none >>= next) tree = .error (.missing v) tree := rfl

theorem place_bind_eq [Scalar K] (v : ViewId) (bounds : Rect K)
    (next : Unit → EStateM ε (ViewTree K) α) (tree : ViewTree K) :
    (place v bounds >>= next) tree = next () (tree.place v bounds).2 := rfl

end ViewMotion.Layout
