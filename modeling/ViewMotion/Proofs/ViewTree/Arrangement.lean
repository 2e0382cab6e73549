import ViewMotion.Gallery.Layout
import ViewMotion.Proofs.Action
import ViewMotion.Proofs.Motion.Frame
import ViewMotion.Proofs.ViewTree.Extension

/-!
This module contains what layouts and frames leave alone in a tree: they give other bounds to some
of its views, and that is all.
-/

namespace ViewMotion

variable {K : Type}

namespace ViewTree

/--
Only views that are among `views` may have other bounds than before.
-/
structure Moved (views : Set ViewId) (tree after : ViewTree K) : Prop where
  shape : SameShape tree after
  kinds_eq : after.kinds = tree.kinds
  groups_eq : after.groups = tree.groups
  bounds?_eq {v : ViewId} (hv : v ∉ views) : after.bounds? v = tree.bounds? v
  wellFormed (h : tree.WellFormed) : after.WellFormed

theorem SameShape.refl (tree : ViewTree K) : SameShape tree tree :=
  ⟨rfl, fun _ => Iff.rfl, fun _ => Iff.rfl, rfl, rfl⟩

theorem SameShape.trans {tree next after : ViewTree K} (h : SameShape tree next)
    (h' : SameShape next after) : SameShape tree after where
  root_eq := h'.root_eq.trans h.root_eq
  mem_kinds v := (h'.mem_kinds v).trans (h.mem_kinds v)
  mem_bounds v := (h'.mem_bounds v).trans (h.mem_bounds v)
  superviews_eq := h'.superviews_eq.trans h.superviews_eq
  subviewLists_eq := h'.subviewLists_eq.trans h.subviewLists_eq

namespace Moved

variable {views views' : Set ViewId} {tree next after : ViewTree K}

theorem refl (views : Set ViewId) (tree : ViewTree K) : Moved views tree tree where
  shape := .refl tree
  kinds_eq := rfl
  groups_eq := rfl
  bounds?_eq _ := rfl
  wellFormed h := h

theorem trans (h : Moved views tree next) (h' : Moved views next after) :
    Moved views tree after where
  shape := h.shape.trans h'.shape
  kinds_eq := h'.kinds_eq.trans h.kinds_eq
  groups_eq := h'.groups_eq.trans h.groups_eq
  bounds?_eq hv := (h'.bounds?_eq hv).trans (h.bounds?_eq hv)
  wellFormed hformed := h'.wellFormed (h.wellFormed hformed)

theorem mono (h : Moved views tree after) (hviews : views ⊆ views') : Moved views' tree after where
  shape := h.shape
  kinds_eq := h.kinds_eq
  groups_eq := h.groups_eq
  bounds?_eq hv := h.bounds?_eq fun hmem => hv (hviews hmem)
  wellFormed := h.wellFormed

theorem kind?_eq (h : Moved views tree after) (v : ViewId) : after.kind? v = tree.kind? v := by
  unfold kind?
  rw [h.kinds_eq]

theorem group?_eq (h : Moved views tree after) (v : ViewId) : after.group? v = tree.group? v := by
  unfold group?
  rw [h.groups_eq]

theorem naturalSize_eq [Scalar K] (h : Moved views tree after) (v : ViewId) :
    after.naturalSize v = tree.naturalSize v := by
  unfold naturalSize
  rw [h.kind?_eq]

end Moved

section Placing

variable [Scalar K] (tree : ViewTree K) {v : ViewId} (bounds : Rect K) {views : Set ViewId}

theorem place_moved (hv : v ∈ views) : Moved views tree (tree.place v bounds).2 where
  shape := {
    root_eq := tree.place_root v bounds
    mem_kinds w := by rw [place_kinds]
    mem_bounds w := by
      rw [mem_bounds_iff_isSome, mem_bounds_iff_isSome, place_bounds?_isSome]
    superviews_eq := tree.place_superviews v bounds
    subviewLists_eq := tree.place_subviewLists v bounds
  }
  kinds_eq := tree.place_kinds v bounds
  groups_eq := tree.place_groups v bounds
  bounds?_eq {w} hw := by
    rw [place_bounds?, if_neg]
    intro heq
    apply hw (heq ▸ hv)
  wellFormed h := h.place v bounds

end Placing

end ViewTree

theorem Animator.frame_moved {T : Type} [Scalar K] [Clock T] (animator : Animator K T)
    (now : Instant) (tree : ViewTree K) :
    ViewTree.Moved {v | animator.isMoving v} tree (animator.frame now tree).2.2 := by
  have hmoved (order : List (ViewId × Motion K)) (tree : ViewTree K) :
      ViewTree.Moved {v | v ∈ order.map Prod.fst} tree (Motion.bringAll now order tree).2 := by
    induction order generalizing tree with
    | nil => apply ViewTree.Moved.refl
    | cons entry order ih =>
      rw [Motion.bringAll_cons]
      apply (tree.place_moved _ _).trans ((ih _).mono _)
      · apply List.mem_cons_self
      · intro v hv
        apply List.mem_cons_of_mem _ hv
  apply (hmoved animator.motions.toList tree).mono
  intro v hv
  rw [Set.mem_ofPred_eq, Std.ExtTreeMap.map_fst_toList_eq_keys, Std.ExtTreeMap.mem_keys] at hv
  exact hv

theorem NamedTree.Extends.moved {base state : NamedTree K} {added : List (ViewId × ViewId)}
    (h : base.Extends added state) {views : Set ViewId} {tree : ViewTree K}
    (hmoved : ViewTree.Moved views state.tree tree) :
    base.Extends added { state with tree } :=
  h.of_sameShape hmoved.shape (hmoved.wellFormed h.sound.wellFormed)
    (fun v _ => hmoved.kind?_eq v) fun v _ => hmoved.group?_eq v

namespace Layout

variable {ε α : Type}

/--
The layout does nothing but to give other bounds to some of the views, whether it gets to its end or
stops before.
-/
def Arranges (views : Set ViewId) (layout : EStateM ε (ViewTree K) α) : Prop :=
  ∀ tree, Ends layout tree (fun _ after => ViewTree.Moved views tree after)
    fun _ after => ViewTree.Moved views tree after

section Closure

variable {views : Set ViewId}

theorem arranges_pure (result : α) :
    Arranges views (pure result : EStateM ε (ViewTree K) α) :=
  along_pure (ViewTree.Moved.refl views) result

theorem Arranges.bind {β : Type} {layout : EStateM ε (ViewTree K) α}
    {next : α → EStateM ε (ViewTree K) β} (h : Arranges views layout)
    (hnext : ∀ result, Arranges views (next result)) : Arranges views (layout >>= next) :=
  Along.bind h hnext fun _ _ _ hmoved hmoved' => hmoved.trans hmoved'

theorem arranges_get : Arranges views (get : EStateM ε (ViewTree K) (ViewTree K)) :=
  along_get (ViewTree.Moved.refl views)

variable [Scalar K]

variable (views) in
theorem place_ends {v : ViewId} (hv : v ∈ views) (bounds : Rect K) (tree : ViewTree K) :
    Succeeds (place v bounds : EStateM ε (ViewTree K) Unit) tree fun _ after =>
      ViewTree.Moved views tree after ∧ after.bounds? v = (tree.bounds? v).map fun _ => bounds := by
  have hbounds := tree.place_bounds? v v bounds
  rw [if_pos rfl] at hbounds
  exact Succeeds.of_ok rfl ⟨tree.place_moved bounds hv, hbounds⟩

theorem arranges_place {v : ViewId} (hv : v ∈ views) (bounds : Rect K) :
    Arranges views (place v bounds : EStateM ε (ViewTree K) Unit) :=
  fun tree => tree.place_moved bounds hv

omit [Scalar K] in
theorem arranges_require (v : ViewId) (found : Option α) :
    Arranges views (require v found : EStateM ViewError (ViewTree K) α) := by
  intro tree
  cases found <;> exact ViewTree.Moved.refl views tree

variable (views) in
theorem arranges_fit {v : ViewId} (hv : v ∈ views) :
    Arranges views (fit v : EStateM ViewError (ViewTree K) Unit) := by
  unfold fit
  apply arranges_get.bind
  intro tree
  apply (arranges_require v _).bind
  intro kind
  exact arranges_place hv _

theorem arranges_lineUp (parent : ViewId) (spacing : K) :
    Arranges Set.univ (lineUp parent spacing : EStateM ViewError (ViewTree K) Unit) := by
  have go (x : K) (vs : List ViewId) :
      Arranges Set.univ (lineUp.go spacing x vs : EStateM ViewError (ViewTree K) Unit) := by
    induction vs generalizing x with
    | nil => exact arranges_pure ()
    | cons v vs ih =>
      unfold lineUp.go
      apply arranges_get.bind
      intro tree
      apply (arranges_require v _).bind
      intro kind
      apply (arranges_place (Set.mem_univ v) _).bind
      exact fun _ => ih _
  unfold lineUp
  apply arranges_get.bind
  intro tree
  apply (arranges_require parent _).bind
  exact fun _ => go 0 _

end Closure

end Layout

end ViewMotion
