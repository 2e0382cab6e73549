import ViewMotion.Proofs.ViewTree.Extension

/-!
This module contains that a view stays where it is for as long as it is in the tree: no request
moves it to another superview, and once it is gone it does not come back.
-/

namespace ViewMotion.NamedTree

variable {K : Type} {state next after : NamedTree K} {u v : ViewId}

/--
Each view that there has been before is gone, or it is where it was.
-/
structure Stays (state after : NamedTree K) : Prop where
  sound : after.Sound
  issued {v : ViewId} (hv : state.names.Issued v) : after.names.Issued v
  root_eq : after.tree.root = state.tree.root
  mem_of_left {v : ViewId} (hv : state.names.Issued v) (hleft : v ∈ after.tree.kinds) :
    v ∈ state.tree.kinds
  superview?_eq {v : ViewId} (hv : state.names.Issued v) (hleft : v ∈ after.tree.kinds) :
    after.tree.superview? v = state.tree.superview? v

namespace Stays

theorem refl (h : state.Sound) : state.Stays state :=
  ⟨h, fun hv => hv, rfl, fun _ hv => hv, fun _ _ => rfl⟩

theorem trans (h : state.Stays next) (h' : next.Stays after) : state.Stays after where
  sound := h'.sound
  issued hv := h'.issued (h.issued hv)
  root_eq := h'.root_eq.trans h.root_eq
  mem_of_left hv hleft := h.mem_of_left hv (h'.mem_of_left (h.issued hv) hleft)
  superview?_eq hv hleft := (h'.superview?_eq (h.issued hv) hleft).trans
    (h.superview?_eq hv (h'.mem_of_left (h.issued hv) hleft))

theorem of_step (hsound : state.Sound) (hstep : state.Step after)
    (hroot : after.tree.root = state.tree.root)
    (hsuperview : ∀ v, state.names.Issued v → v ∈ after.tree.kinds →
      after.tree.superview? v = state.tree.superview? v) : state.Stays after where
  sound := hsound.step hstep
  issued {v} hv := by
    cases hstep with
    | keep _ names_eq _ =>
      rw [names_eq]
      exact hv
    | take _ names_eq _ =>
      rw [names_eq, ViewNames.issued_take_iff]
      exact Or.inr hv
  root_eq := hroot
  mem_of_left {v} hv hleft := by
    by_contra hmissing
    have hretired : state.Retired v := ⟨hv, hmissing⟩
    exact (hretired.step hstep).2 hleft
  superview?_eq hv hleft := hsuperview _ hv hleft

/--
The views above one that is left are left as well, and in the same order.
-/
theorem encloses (h : state.Stays after) (hsound : state.Sound)
    (hencloses : state.tree.Encloses u v) (hv : state.names.Issued v)
    (hleft : v ∈ after.tree.kinds) : after.tree.Encloses u v := by
  rw [hsound.wellFormed.encloses_iff] at hencloses
  induction hencloses using Relation.ReflTransGen.head_induction_on with
  | refl => exact .refl
  | @head v p hp _ ih =>
    have hafter : after.tree.superview? v = some p := (h.superview?_eq hv hleft).trans hp
    have hissued : state.names.Issued p := hsound.issued (hsound.wellFormed.superview_mem hp)
    have habove := ih hissued (h.sound.wellFormed.superview_mem hafter)
    exact h.sound.wellFormed.encloses_superview hafter habove

end Stays

theorem Extends.stays {added : List (ViewId × ViewId)} (h : state.Extends added after) :
    state.Stays after where
  sound := h.sound
  issued hv := h.issued hv
  root_eq := h.root_eq
  mem_of_left {v} hv hleft := ((h.mem_kinds v).mp hleft).resolve_left (h.not_added hv)
  superview?_eq {v} hv _ := by
    apply Option.ext
    intro p
    have hbelow : v ∉ below added p := by
      intro hmem
      exact h.not_added hv (List.mem_map_of_mem (f := Prod.fst) (mem_below_iff.mp hmem))
    rw [← h.sound.wellFormed.mem_subviews_iff, ← h.base_sound.wellFormed.mem_subviews_iff,
      h.subviews_eq, List.mem_append, or_iff_left hbelow]

variable [Scalar K]

theorem perform_stays (h : state.Sound) (request : TreeRequest K) :
    state.Stays (state.perform request) := by
  have hstep := perform_step h request
  cases request with
  | insert parent kind =>
    apply Stays.of_step h hstep
    · unfold perform
      dsimp only
      split
      · next tree hinsert =>
        rw [(ViewTree.insert_eq_ok_iff.mp hinsert).2]
        rfl
      · rfl
    · intro v hv _
      unfold perform
      dsimp only
      split
      · next tree hinsert =>
        rw [(ViewTree.insert_eq_ok_iff.mp hinsert).2, ViewTree.attach_superview?, if_neg]
        intro heq
        exact state.names.upcoming_not_issued (heq ▸ hv)
      · rfl
  | remove w =>
    unfold perform at hstep ⊢
    dsimp only at hstep ⊢
    split at hstep
    · next tree hremove =>
      rcases h.wellFormed.remove_pruned hremove with ⟨p, gone, -, hpruned, -⟩
      apply Stays.of_step h hstep hpruned.root_eq
      intro v _ hleft
      exact (hpruned.superview?_eq v).trans (if_neg ((hpruned.mem_kinds v).mp hleft).1)
    · exact .refl h
  | clear w =>
    unfold perform at hstep ⊢
    dsimp only at hstep ⊢
    split at hstep
    · next tree hclear =>
      rcases h.wellFormed.clear_pruned hclear with ⟨gone, hpruned, -⟩
      apply Stays.of_step h hstep hpruned.root_eq
      intro v _ hleft
      exact (hpruned.superview?_eq v).trans (if_neg ((hpruned.mem_kinds v).mp hleft).1)
    · exact .refl h
  | place w bounds =>
    apply Stays.of_step h hstep (state.tree.place_root w bounds)
    exact fun v _ _ => state.tree.place_superview? w v bounds
  | modifyKind w change =>
    unfold perform at hstep ⊢
    dsimp only at hstep ⊢
    cases hmodify : state.tree.modifyKind? w change with
    | none => exact .refl h
    | some tree =>
      rw [hmodify] at hstep
      obtain ⟨-, hshape, -⟩ := ViewTree.modifyKind?_effect hmodify
      apply Stays.of_step h hstep hshape.root_eq
      exact fun v _ _ => congrArg (·[v]?) hshape.superviews_eq
  | setGroup w group =>
    unfold perform at hstep ⊢
    dsimp only at hstep ⊢
    split at hstep
    · next tree hset =>
      have htree := (ViewTree.setGroup_eq_ok_iff.mp hset).2
      subst htree
      exact .of_step h hstep rfl fun _ _ _ => rfl
    · exact .refl h
  | takeDamaged => exact .of_step h hstep rfl fun _ _ _ => rfl
  | takeUnarranged => exact .of_step h hstep rfl fun _ _ _ => rfl
  | takeName => exact .of_step h hstep rfl fun _ _ _ => rfl

theorem run_stays (h : state.Sound) (requests : List (TreeRequest K)) :
    state.Stays (state.run requests) := by
  induction requests generalizing state with
  | nil => exact .refl h
  | cons request requests ih =>
    have hfirst := perform_stays h request
    exact hfirst.trans (ih hfirst.sound)

end ViewMotion.NamedTree
