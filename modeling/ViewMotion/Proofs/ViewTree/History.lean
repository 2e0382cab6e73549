import ViewMotion.Proofs.ViewTree.Pruning
import ViewMotion.Proofs.ViewTree.Traversal

/-!
This module contains what holds for a tree of views after any number of requests to it, in whatever
order they come and whatever views they are about. A request that is refused leaves everything as it
is, and other trees may take their names from the same place.
-/

namespace ViewMotion

structure NamedTree (K : Type) where
  tree : ViewTree K
  names : ViewNames

inductive TreeRequest (K : Type) where
  | insert (parent : ViewId) (kind : ViewKind K)
  | remove (v : ViewId)
  | clear (v : ViewId)
  | place (v : ViewId) (bounds : Rect K)
  | modifyKind (v : ViewId) (change : ViewKind K → ViewKind K)
  | setGroup (v : ViewId) (group : Nat)
  | takeDamaged
  | takeUnarranged
  | takeName

namespace NamedTree

variable {K : Type} [Scalar K]

def new (names : ViewNames) : NamedTree K := ⟨.ofRoot names.upcoming, names.take.2⟩

def perform (state : NamedTree K) : TreeRequest K → NamedTree K
  | .insert parent kind =>
    match state.tree.insert parent kind state.names.upcoming with
    | .ok tree => ⟨tree, state.names.take.2⟩
    | .error _ => state
  | .remove v =>
    match state.tree.remove v with
    | .ok tree => { state with tree }
    | .error _ => state
  | .clear v =>
    match state.tree.clear v with
    | .ok tree => { state with tree }
    | .error _ => state
  | .place v bounds => { state with tree := (state.tree.place v bounds).2 }
  | .modifyKind v change => { state with tree := (state.tree.modifyKind? v change).getD state.tree }
  | .setGroup v group =>
    match state.tree.setGroup v group with
    | .ok tree => { state with tree }
    | .error _ => state
  | .takeDamaged => { state with tree := state.tree.takeDamaged.2 }
  | .takeUnarranged => { state with tree := state.tree.takeUnarranged.2 }
  | .takeName => { state with names := state.names.take.2 }

def run (state : NamedTree K) (requests : List (TreeRequest K)) : NamedTree K :=
  requests.foldl perform state

theorem run_append (state : NamedTree K) (requests later : List (TreeRequest K)) :
    state.run (requests ++ later) = (state.run requests).run later := by
  unfold run
  rw [List.foldl_append]

end NamedTree

namespace ViewNames

def Issued (names : ViewNames) (v : ViewId) : Prop := ∃ n < names.taken, names.name n = v

instance (names : ViewNames) : DecidablePred names.Issued :=
  fun v => inferInstanceAs (Decidable (∃ n < names.taken, names.name n = v))

theorem upcoming_not_issued (names : ViewNames) : ¬ names.Issued names.upcoming := by
  intro ⟨n, hn, heq⟩
  have := names.name_inj heq
  omega

theorem issued_take_iff (names : ViewNames) (v : ViewId) :
    names.take.2.Issued v ↔ names.upcoming = v ∨ names.Issued v := by
  unfold Issued take upcoming
  constructor
  · intro ⟨n, hn, hv⟩
    by_cases heq : n = names.taken
    · apply Or.inl (heq ▸ hv)
    · refine Or.inr ⟨n, ?_, hv⟩
      dsimp only at hn
      omega
  · intro h
    cases h with
    | inl hv => exact ⟨names.taken, Nat.lt_succ_self names.taken, hv⟩
    | inr h =>
      rcases h with ⟨n, hn, hv⟩
      exact ⟨n, Nat.lt_succ_of_lt hn, hv⟩

end ViewNames

namespace NamedTree

variable {K : Type} {state state' : NamedTree K} {v : ViewId}

structure Sound (state : NamedTree K) : Prop where
  wellFormed : state.tree.WellFormed
  issued {v : ViewId} (hv : v ∈ state.tree.kinds) : state.names.Issued v

def Retired (state : NamedTree K) (v : ViewId) : Prop :=
  state.names.Issued v ∧ v ∉ state.tree.kinds

inductive Step (state state' : NamedTree K) : Prop where
  | keep (wellFormed : state'.tree.WellFormed) (names_eq : state'.names = state.names)
    (old : ∀ v ∈ state'.tree.kinds, v ∈ state.tree.kinds)
  | take (wellFormed : state'.tree.WellFormed) (names_eq : state'.names = state.names.take.2)
    (old : ∀ v ∈ state'.tree.kinds, state.names.upcoming = v ∨ v ∈ state.tree.kinds)

theorem Sound.refl_step (h : state.Sound) : state.Step state :=
  .keep h.wellFormed rfl fun _ hv => hv

theorem Sound.step (hsound : state.Sound) (hstep : state.Step state') : state'.Sound := by
  cases hstep with
  | keep wellFormed names_eq old =>
    refine ⟨wellFormed, ?_⟩
    intro v hv
    rw [names_eq]
    apply hsound.issued (old v hv)
  | take wellFormed names_eq old =>
    refine ⟨wellFormed, ?_⟩
    intro v hv
    rw [names_eq, ViewNames.issued_take_iff]
    exact (old v hv).imp_right hsound.issued

theorem Retired.step (hv : state.Retired v) (hstep : state.Step state') : state'.Retired v := by
  cases hstep with
  | keep wellFormed names_eq old =>
    constructor
    · rw [names_eq]
      apply hv.1
    · apply fun hmem => hv.2 (old v hmem)
  | take wellFormed names_eq old =>
    constructor
    · rw [names_eq, ViewNames.issued_take_iff]
      apply Or.inr hv.1
    · intro hmem
      cases old v hmem with
      | inl heq => apply state.names.upcoming_not_issued (heq ▸ hv.1)
      | inr hmem => apply hv.2 hmem

variable [Scalar K]

theorem perform_step (h : state.Sound) (request : TreeRequest K) :
    state.Step (state.perform request) := by
  have hfresh : state.names.upcoming ∉ state.tree.kinds := by
    intro hmem
    apply state.names.upcoming_not_issued (h.issued hmem)
  cases request with
  | insert parent kind =>
    unfold perform
    dsimp only
    split
    · next tree hinsert =>
      apply Step.take
      case wellFormed => exact h.wellFormed.insert hfresh hinsert
      case names_eq => rfl
      case old =>
        intro v hv
        rw [ViewTree.insert_eq_ok_iff] at hinsert
        rw [hinsert.2, ViewTree.attach_mem_kinds] at hv
        exact hv
    · apply h.refl_step
  | remove v =>
    unfold perform
    dsimp only
    split
    · next tree hremove =>
      refine .keep (h.wellFormed.remove hremove) rfl ?_
      rcases h.wellFormed.remove_pruned hremove with ⟨p, gone, -, hpruned, -⟩
      intro w hw
      exact ((hpruned.mem_kinds w).mp hw).2
    · apply h.refl_step
  | clear v =>
    unfold perform
    dsimp only
    split
    · next tree hclear =>
      refine .keep (h.wellFormed.clear hclear) rfl ?_
      rcases h.wellFormed.clear_pruned hclear with ⟨gone, hpruned, -⟩
      intro w hw
      exact ((hpruned.mem_kinds w).mp hw).2
    · apply h.refl_step
  | place v bounds =>
    refine .keep (h.wellFormed.place v bounds) rfl ?_
    intro w hw
    rw [← state.tree.place_kinds v bounds]
    exact hw
  | modifyKind v change =>
    unfold perform
    dsimp only
    cases hmodify : state.tree.modifyKind? v change with
    | none => apply h.refl_step
    | some tree =>
      refine .keep (h.wellFormed.modifyKind? hmodify) rfl ?_
      rcases ViewTree.modifyKind?_effect hmodify with ⟨-, hshape, -⟩
      intro w hw
      exact (hshape.mem_kinds w).mp hw
  | setGroup v group =>
    unfold perform
    dsimp only
    split
    · next tree hset =>
      refine .keep (h.wellFormed.setGroup hset) rfl ?_
      rw [ViewTree.setGroup_eq_ok_iff] at hset
      intro w hw
      rw [hset.2] at hw
      exact hw
    · apply h.refl_step
  | takeDamaged => exact .keep h.wellFormed.takeDamaged rfl fun _ hv => hv
  | takeUnarranged => exact .keep h.wellFormed.takeUnarranged rfl fun _ hv => hv
  | takeName => exact .take h.wellFormed rfl fun _ hv => Or.inr hv

theorem new_sound (names : ViewNames) : (new names : NamedTree K).Sound := by
  constructor
  case wellFormed => apply ViewTree.ofRoot_wellFormed
  case issued =>
    intro v hv
    unfold new
    dsimp only
    rw [ViewNames.issued_take_iff]
    simp only [new, ViewTree.ofRoot, ViewTree.enter, ViewTree.damage, Std.ExtTreeMap.mem_insert,
      Std.LawfulEqOrd.compare_eq_iff_eq, Std.ExtTreeMap.not_mem_empty, or_false] at hv
    apply Or.inl hv

theorem Sound.run (h : state.Sound) (requests : List (TreeRequest K)) :
    (state.run requests).Sound := by
  induction requests generalizing state with
  | nil => exact h
  | cons request requests ih => apply ih (h.step (perform_step h request))

theorem Retired.run (hv : state.Retired v) (h : state.Sound) (requests : List (TreeRequest K)) :
    (state.run requests).Retired v := by
  induction requests generalizing state with
  | nil => exact hv
  | cons request requests ih =>
    have hstep := perform_step h request
    apply ih (hv.step hstep) (h.step hstep)

theorem issued_run (hv : state.names.Issued v) (h : state.Sound)
    (requests : List (TreeRequest K)) : (state.run requests).names.Issued v := by
  induction requests generalizing state with
  | nil => exact hv
  | cons request requests ih =>
    have hstep := perform_step h request
    apply ih _ (h.step hstep)
    cases hstep with
    | keep _ names_eq _ => apply names_eq ▸ hv
    | take _ names_eq _ =>
      rw [names_eq, ViewNames.issued_take_iff]
      apply Or.inr hv

theorem run_new_wellFormed (names : ViewNames) (requests : List (TreeRequest K)) :
    let state := (new names).run requests
    state.tree.WellFormed ∧
      (state.tree.preorder state.tree.root).Nodup ∧
      (∀ v, v ∈ state.tree.preorder state.tree.root ↔ state.tree.contains v) ∧
      (state.tree.preorder state.tree.root).length = state.tree.size ∧
      ∀ earlier v, earlier <+: requests → ((new names).run earlier).tree.contains v →
        ¬ state.tree.contains v → ∀ later, ¬ (state.run later).tree.contains v := by
  have hsound : ((new names).run requests : NamedTree K).Sound := (new_sound names).run requests
  have hformed := hsound.wellFormed
  refine ⟨hformed, hformed.preorder_nodup _, hformed.mem_preorder_root_iff,
    hformed.preorder_root_length, ?_⟩
  intro earlier v hearlier hv hgone later
  have hretired : ((new names).run requests : NamedTree K).Retired v := by
    constructor
    · rcases hearlier with ⟨between, rfl⟩
      have hold : ((new names).run earlier : NamedTree K).Sound := (new_sound names).run earlier
      rw [run_append]
      apply issued_run (hold.issued (ViewTree.contains_iff_mem.mp hv)) hold between
    · rw [ViewTree.contains_iff_mem] at hgone
      exact hgone
  rw [ViewTree.contains_iff_mem]
  exact (hretired.run hsound later).2

end NamedTree

end ViewMotion
