import ViewMotion.Proofs.ViewTree.History

/-!
This module contains trees that have grown out of other ones: there are further views in them, below
the old ones and below each other, but the old ones are all still there.
-/

namespace ViewMotion

/--
The views that were put into `p`, where each view comes with the one that it was put into.
-/
def below (added : List (ViewId × ViewId)) (p : ViewId) : List ViewId :=
  (added.filter (·.2 = p)).map Prod.fst

section Below

variable {added : List (ViewId × ViewId)} {v p : ViewId}

theorem below_cons (v q : ViewId) (added : List (ViewId × ViewId)) (p : ViewId) :
    below ((v, q) :: added) p = if q = p then v :: below added p else below added p := by
  unfold below
  rw [List.filter_cons]
  simp only [decide_eq_true_eq]
  split <;> rfl

theorem below_append (added others : List (ViewId × ViewId)) (p : ViewId) :
    below (added ++ others) p = below added p ++ below others p := by
  unfold below
  rw [List.filter_append, List.map_append]

theorem below_map (vs : List ViewId) (q p : ViewId) :
    below (vs.map fun v => (v, q)) p = if q = p then vs else [] := by
  induction vs with
  | nil => simp [below]
  | cons v vs ih =>
    rw [List.map_cons, below_cons, ih]
    split <;> rfl

theorem mem_below_iff : v ∈ below added p ↔ (v, p) ∈ added := by
  simp [below]

theorem below_filter (gone : List ViewId) (added : List (ViewId × ViewId)) (p : ViewId) :
    below (added.filter (·.1 ∉ gone)) p = (below added p).filter (· ∉ gone) := by
  unfold below
  rw [List.filter_map, List.filter_comm]
  rfl

end Below

namespace NamedTree

variable {K : Type}

/--
The state has the views of `base` and the `added` ones. New views stand behind old ones, in the
order in which they were put into their superviews.
-/
structure Extends (base : NamedTree K) (added : List (ViewId × ViewId)) (state : NamedTree K) :
    Prop where
  base_sound : base.Sound
  sound : state.Sound
  issued {v : ViewId} (hv : base.names.Issued v) : state.names.Issued v
  nodup : (added.map Prod.fst).Nodup
  fresh {v : ViewId} (hv : v ∈ added.map Prod.fst) : ¬ base.names.Issued v
  root_eq : state.tree.root = base.tree.root
  mem_kinds (v : ViewId) :
    v ∈ state.tree.kinds ↔ v ∈ added.map Prod.fst ∨ v ∈ base.tree.kinds
  kind?_eq {v : ViewId} (hv : v ∉ added.map Prod.fst) : state.tree.kind? v = base.tree.kind? v
  group?_eq {v : ViewId} (hv : v ∉ added.map Prod.fst) : state.tree.group? v = base.tree.group? v
  subviews_eq (p : ViewId) : state.tree.subviews p = base.tree.subviews p ++ below added p

theorem Sound.extends {base : NamedTree K} (h : base.Sound) : base.Extends [] base where
  base_sound := h
  sound := h
  issued hv := hv
  nodup := List.nodup_nil
  fresh hv := absurd hv List.not_mem_nil
  root_eq := rfl
  mem_kinds v := by simp
  kind?_eq _ := rfl
  group?_eq _ := rfl
  subviews_eq p := (List.append_nil _).symm

section Attaching

variable [Scalar K] {state : NamedTree K} {p : ViewId}

theorem Sound.attach (h : state.Sound) (hparent : p ∈ state.tree.kinds) (kind : ViewKind K) :
    state.Extends [(state.names.upcoming, p)]
      ⟨(state.tree.enter state.names.upcoming kind).attach p state.names.upcoming,
        state.names.take.2⟩ := by
  have hfresh : ¬ state.names.Issued state.names.upcoming := state.names.upcoming_not_issued
  have hnew : state.names.upcoming ∉ state.tree.kinds := fun hmem => hfresh (h.issued hmem)
  have hne : state.names.upcoming ≠ p := fun heq => hnew (heq ▸ hparent)
  have hlist : p ∈ state.tree.subviewLists := (h.wellFormed.mem_subviewLists p).mpr hparent
  have hinsert : state.perform (.insert p kind) =
      ⟨(state.tree.enter state.names.upcoming kind).attach p state.names.upcoming,
        state.names.take.2⟩ := by
    unfold perform
    dsimp only
    rw [ViewTree.insert_eq_ok_iff.mpr ⟨hparent, rfl⟩]
  have hmem (v : ViewId) : v ∈ [(state.names.upcoming, p)].map Prod.fst ↔
      state.names.upcoming = v := by
    simp [eq_comm]
  constructor
  case base_sound => exact h
  case sound =>
    rw [← hinsert]
    apply h.run [.insert p kind]
  case issued =>
    intro v hv
    rw [ViewNames.issued_take_iff]
    exact Or.inr hv
  case nodup => exact List.nodup_singleton _
  case fresh =>
    intro v hv
    rw [hmem] at hv
    exact hv ▸ hfresh
  case root_eq => rfl
  case mem_kinds =>
    intro v
    rw [hmem]
    apply ViewTree.attach_mem_kinds
  case kind?_eq =>
    intro v hv
    rw [hmem] at hv
    simp only [ViewTree.attach, ViewTree.disarrange, ViewTree.enter, ViewTree.damage,
      ViewTree.kind?, Std.ExtTreeMap.getElem?_insert, Std.LawfulEqOrd.compare_eq_iff_eq, hv,
      if_false]
  case group?_eq => exact fun _ => rfl
  case subviews_eq =>
    intro q
    rw [ViewTree.attach_subviews hne hlist, below_cons]
    split
    · next heq =>
      have hq : ¬ p = q := fun hp => hne (heq.trans hp.symm)
      rw [if_neg hq, ← heq, h.wellFormed.subviews_eq_nil hnew]
      rfl
    · split
      · rfl
      · exact (List.append_nil _).symm

end Attaching

namespace Extends

variable {base state : NamedTree K} {added : List (ViewId × ViewId)} {v p : ViewId}

theorem mem_of_base (h : base.Extends added state) (hv : v ∈ base.tree.kinds) :
    v ∈ state.tree.kinds :=
  (h.mem_kinds v).mpr (Or.inr hv)

theorem mem_of_added (h : base.Extends added state) (hv : v ∈ added.map Prod.fst) :
    v ∈ state.tree.kinds :=
  (h.mem_kinds v).mpr (Or.inl hv)

theorem issued_of_added (h : base.Extends added state) (hv : v ∈ added.map Prod.fst) :
    state.names.Issued v :=
  h.sound.issued (h.mem_of_added hv)

theorem not_added (h : base.Extends added state) (hv : base.names.Issued v) :
    v ∉ added.map Prod.fst :=
  fun hadded => h.fresh hadded hv

theorem not_added_of_mem (h : base.Extends added state) (hv : v ∈ base.tree.kinds) :
    v ∉ added.map Prod.fst :=
  h.not_added (h.base_sound.issued hv)

theorem base_subviews (h : base.Extends added state) (hp : p ∈ added.map Prod.fst) :
    base.tree.subviews p = [] :=
  h.base_sound.wellFormed.subviews_eq_nil fun hmem => h.not_added_of_mem hmem hp

theorem subviews_added (h : base.Extends added state) (hp : p ∈ added.map Prod.fst) :
    state.tree.subviews p = below added p := by
  rw [h.subviews_eq, h.base_subviews hp, List.nil_append]

theorem ne_root (h : base.Extends added state) (hv : v ∈ added.map Prod.fst) :
    v ≠ state.tree.root := by
  intro heq
  rw [h.root_eq] at heq
  apply h.not_added_of_mem h.base_sound.wellFormed.root_mem (heq ▸ hv)

/--
The added views are below each other, so a view that is enclosed by one of them is one of them too.
-/
theorem encloses_added (h : base.Extends added state) (hp : p ∈ added.map Prod.fst)
    (hv : state.tree.Encloses p v) : v ∈ added.map Prod.fst := by
  induction hv with
  | refl => exact hp
  | @tail x y hx hy ih =>
    rw [h.subviews_added ih, mem_below_iff] at hy
    apply List.mem_map_of_mem (f := Prod.fst) hy

theorem trans {next : NamedTree K} {others : List (ViewId × ViewId)}
    (h : base.Extends added state) (h' : state.Extends others next) :
    base.Extends (added ++ others) next := by
  have hnot {v : ViewId} (hv : v ∉ (added ++ others).map Prod.fst) :
      v ∉ added.map Prod.fst ∧ v ∉ others.map Prod.fst := by
    rw [List.map_append, List.mem_append, not_or] at hv
    exact hv
  constructor
  case base_sound => exact h.base_sound
  case sound => exact h'.sound
  case issued => exact fun hv => h'.issued (h.issued hv)
  case nodup =>
    rw [List.map_append, List.nodup_append]
    refine ⟨h.nodup, h'.nodup, ?_⟩
    intro v hv w hw heq
    apply h'.fresh hw (heq ▸ h.issued_of_added hv)
  case fresh =>
    intro v hv hissued
    rw [List.map_append, List.mem_append] at hv
    cases hv with
    | inl hv => exact h.fresh hv hissued
    | inr hv => exact h'.fresh hv (h.issued hissued)
  case root_eq => exact h'.root_eq.trans h.root_eq
  case mem_kinds =>
    intro v
    rw [h'.mem_kinds, h.mem_kinds, List.map_append, List.mem_append, or_assoc, or_left_comm]
  case kind?_eq =>
    intro v hv
    rw [h'.kind?_eq (hnot hv).2, h.kind?_eq (hnot hv).1]
  case group?_eq =>
    intro v hv
    rw [h'.group?_eq (hnot hv).2, h.group?_eq (hnot hv).1]
  case subviews_eq =>
    intro p
    rw [h'.subviews_eq, h.subviews_eq, below_append, List.append_assoc]

theorem of_sameShape (h : base.Extends added state) {tree : ViewTree K}
    (hshape : ViewTree.SameShape state.tree tree) (hformed : tree.WellFormed)
    (hkind : ∀ v, v ∉ added.map Prod.fst → tree.kind? v = state.tree.kind? v)
    (hgroup : ∀ v, v ∉ added.map Prod.fst → tree.group? v = state.tree.group? v) :
    base.Extends added { state with tree } := by
  constructor
  case base_sound => exact h.base_sound
  case sound =>
    refine ⟨hformed, ?_⟩
    intro v hv
    apply h.sound.issued ((hshape.mem_kinds v).mp hv)
  case issued => exact h.issued
  case nodup => exact h.nodup
  case fresh => exact h.fresh
  case root_eq => exact hshape.root_eq.trans h.root_eq
  case mem_kinds =>
    intro v
    rw [← h.mem_kinds]
    apply hshape.mem_kinds
  case kind?_eq =>
    intro v hv
    exact (hkind v hv).trans (h.kind?_eq hv)
  case group?_eq =>
    intro v hv
    exact (hgroup v hv).trans (h.group?_eq hv)
  case subviews_eq =>
    intro p
    rw [← h.subviews_eq]
    unfold ViewTree.subviews
    rw [hshape.subviewLists_eq]

theorem prune (h : base.Extends added state) {tree : ViewTree K} {gone : List ViewId}
    (hsound : Sound { state with tree }) (hroot : tree.root = state.tree.root)
    (hkind : ∀ v, tree.kind? v = if v ∈ gone then none else state.tree.kind? v)
    (hgroup : ∀ v, tree.group? v = if v ∈ gone then none else state.tree.group? v)
    (hsubviews : ∀ p, tree.subviews p =
      if p ∈ gone then [] else (state.tree.subviews p).filter (· ∉ gone))
    (hgone : ∀ v ∈ gone, v ∈ added.map Prod.fst)
    (hdown : ∀ p ∈ gone, ∀ v ∈ state.tree.subviews p, v ∈ gone) :
    base.Extends (added.filter (·.1 ∉ gone)) { state with tree } := by
  have hmap : (added.filter (·.1 ∉ gone)).map Prod.fst =
      (added.map Prod.fst).filter (· ∉ gone) := by
    rw [List.filter_map]
    rfl
  have hold {v : ViewId} (hv : v ∈ base.tree.kinds) : v ∉ gone :=
    fun hmem => h.not_added_of_mem hv (hgone v hmem)
  constructor
  case base_sound => exact h.base_sound
  case sound => exact hsound
  case issued => exact h.issued
  case nodup =>
    rw [hmap]
    apply h.nodup.filter
  case fresh =>
    intro v hv
    rw [hmap] at hv
    apply h.fresh (List.mem_of_mem_filter hv)
  case root_eq => exact hroot.trans h.root_eq
  case mem_kinds =>
    intro v
    rw [hmap, List.mem_filter, decide_eq_true_iff, ViewTree.mem_kinds_iff_isSome, hkind]
    split
    · next hv =>
      constructor
      · intro hsome
        contradiction
      · intro hmem
        cases hmem with
        | inl hmem => exact absurd hv hmem.2
        | inr hmem => exact absurd hv (hold hmem)
    · next hv =>
      rw [← ViewTree.mem_kinds_iff_isSome, h.mem_kinds]
      simp [hv]
  case kind?_eq =>
    intro v hv
    rw [hmap, List.mem_filter, decide_eq_true_iff] at hv
    rw [hkind]
    split
    · next hmem =>
      have hbase : v ∉ base.tree.kinds := fun hbase => hold hbase hmem
      rw [ViewTree.mem_kinds_iff_isSome, Bool.not_eq_true, Option.isSome_eq_false_iff,
        Option.isNone_iff_eq_none] at hbase
      exact hbase.symm
    · next hmem => exact h.kind?_eq fun hadded => hv ⟨hadded, hmem⟩
  case group?_eq =>
    intro v hv
    rw [hmap, List.mem_filter, decide_eq_true_iff] at hv
    rw [hgroup]
    split
    · next hmem =>
      have hbase : v ∉ base.tree.groups :=
        fun hbase => hold (h.base_sound.wellFormed.mem_of_group hbase) hmem
      exact (Std.ExtTreeMap.getElem?_eq_none hbase).symm
    · next hmem => exact h.group?_eq fun hadded => hv ⟨hadded, hmem⟩
  case subviews_eq =>
    intro p
    rw [hsubviews, below_filter]
    split
    · next hp =>
      rw [h.base_subviews (hgone p hp), List.nil_append]
      symm
      rw [List.filter_eq_nil_iff]
      intro v hv
      rw [← h.subviews_added (hgone p hp)] at hv
      simpa using hdown p hp v hv
    · rw [h.subviews_eq, List.filter_append]
      apply congrArg (· ++ (below added p).filter (· ∉ gone))
      rw [List.filter_eq_self]
      intro v hv
      rw [decide_eq_true_iff]
      apply hold (h.base_sound.wellFormed.mem_of_superview
        (h.base_sound.wellFormed.superview_of_mem hv))

end Extends

end NamedTree

end ViewMotion
