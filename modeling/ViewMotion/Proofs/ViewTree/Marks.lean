import Mathlib.Data.List.Induction
import ViewMotion.Proofs.ViewTree.History

/-!
This module contains what a tree tells of its history when its marks are taken: the views that have
to be painted again, and those whose subviews have to be laid out again. Both are the views that
some request has marked since the marks were taken last, as long as they are still there.
-/

namespace ViewMotion

namespace TreeRequest

variable {K : Type} [Scalar K]

def Accepted (state : NamedTree K) : TreeRequest K → Prop
  | .insert parent kind => ∃ tree, state.tree.insert parent kind state.names.upcoming = .ok tree
  | .remove v => ∃ tree, state.tree.remove v = .ok tree
  | .clear v => ∃ tree, state.tree.clear v = .ok tree
  | .place v bounds => (state.tree.place v bounds).1
  | .modifyKind v change => ∃ tree, state.tree.modifyKind? v change = some tree
  | .setGroup v group => ∃ tree, state.tree.setGroup v group = .ok tree
  | .takeDamaged | .takeUnarranged | .takeName => True

def Damages (state : NamedTree K) (v : ViewId) (request : TreeRequest K) : Prop :=
  request.Accepted state ∧
    match request with
    | .insert _ _ => state.names.upcoming = v
    | .remove w => state.tree.superview? w = some v
    | .clear w | .modifyKind w _ => w = v
    | .place w _ => w = v ∨ state.tree.superview? w = some v
    | _ => False

def Disarranges (state : NamedTree K) (v : ViewId) (request : TreeRequest K) : Prop :=
  request.Accepted state ∧
    match request with
    | .insert parent _ => parent = v
    | .remove w => state.tree.superview? w = some v
    | .clear w => w = v
    | .place w bounds =>
      w = v ∧ (state.tree.bounds? w).any fun current => current.size != bounds.size
    | _ => False

end TreeRequest

namespace NamedTree

variable {K : Type} [Scalar K] {state : NamedTree K} {request : TreeRequest K} {v : ViewId}

theorem perform_refused (h : ¬ request.Accepted state) : state.perform request = state := by
  cases request with
  | insert parent kind =>
    unfold perform
    dsimp only
    split
    · next tree hinsert => exact absurd ⟨tree, hinsert⟩ h
    · rfl
  | remove w =>
    unfold perform
    dsimp only
    split
    · next tree hremove => exact absurd ⟨tree, hremove⟩ h
    · rfl
  | clear w =>
    unfold perform
    dsimp only
    split
    · next tree hclear => exact absurd ⟨tree, hclear⟩ h
    · rfl
  | place w bounds =>
    unfold TreeRequest.Accepted at h
    dsimp only at h
    rw [ViewTree.place_fst, Bool.not_eq_true, Option.isSome_eq_false_iff, Option.isNone_iff_eq_none]
      at h
    unfold perform ViewTree.place
    dsimp only
    rw [h]
  | modifyKind w change =>
    unfold perform
    dsimp only
    cases hmodify : state.tree.modifyKind? w change with
    | none => rfl
    | some tree => exact absurd ⟨tree, hmodify⟩ h
  | setGroup w group =>
    unfold perform
    dsimp only
    split
    · next tree hset => exact absurd ⟨tree, hset⟩ h
    · rfl
  | takeDamaged => exact absurd trivial h
  | takeUnarranged => exact absurd trivial h
  | takeName => exact absurd trivial h

theorem perform_mem_marks (h : state.Sound) (hv : v ∈ (state.perform request).tree.kinds) :
    (v ∈ (state.perform request).tree.damaged ↔
        request ≠ .takeDamaged ∧ v ∈ state.tree.damaged ∨ request.Damages state v) ∧
      (v ∈ (state.perform request).tree.unarranged ↔
        request ≠ .takeUnarranged ∧ v ∈ state.tree.unarranged ∨ request.Disarranges state v) := by
  unfold TreeRequest.Damages TreeRequest.Disarranges
  by_cases haccepted : request.Accepted state
  · cases request with
    | insert parent kind =>
      rcases id haccepted with ⟨tree, hinsert⟩
      simp only [haccepted, perform, hinsert]
      rw [ViewTree.insert_eq_ok_iff] at hinsert
      rw [hinsert.2, ViewTree.attach_mem_damaged, ViewTree.attach_mem_unarranged]
      simp [or_comm]
    | remove w =>
      rcases id haccepted with ⟨tree, hremove⟩
      rcases h.wellFormed.remove_pruned hremove with ⟨p, gone, hp, hpruned, -⟩
      simp only [perform, hremove, hpruned.mem_kinds] at hv
      simp [haccepted, perform, hremove, hpruned.mem_damaged, hpruned.mem_unarranged, hp, hv.1,
        or_comm]
    | clear w =>
      rcases id haccepted with ⟨tree, hclear⟩
      rcases h.wellFormed.clear_pruned hclear with ⟨gone, hpruned, -⟩
      simp only [perform, hclear, hpruned.mem_kinds] at hv
      simp [haccepted, perform, hclear, hpruned.mem_damaged, hpruned.mem_unarranged, hv.1, or_comm]
    | place w bounds =>
      have hw : (state.tree.bounds? w).isSome := by
        rw [← state.tree.place_fst w bounds]
        exact haccepted
      simp [haccepted, perform, ViewTree.place_mem_damaged, ViewTree.place_mem_unarranged, hw]
    | modifyKind w change =>
      rcases id haccepted with ⟨tree, hmodify⟩
      rcases ViewTree.modifyKind?_effect hmodify with ⟨-, -, -, -, hdamaged, hunarranged⟩
      simp [haccepted, perform, hmodify, hdamaged, hunarranged, or_comm]
    | setGroup w group =>
      rcases id haccepted with ⟨tree, hset⟩
      simp only [perform, hset]
      rw [ViewTree.setGroup_eq_ok_iff] at hset
      simp [hset.2]
    | takeDamaged => simp [perform, ViewTree.takeDamaged]
    | takeUnarranged => simp [perform, ViewTree.takeUnarranged]
    | takeName => simp [perform]
  · have hrequest : request ≠ .takeDamaged ∧ request ≠ .takeUnarranged := by
      constructor <;> exact fun heq => haccepted (heq ▸ trivial)
    rw [perform_refused haccepted]
    simp [hrequest, haccepted]

theorem mem_of_issued (h : state.Sound) (hissued : state.names.Issued v)
    (hv : v ∈ (state.perform request).tree.kinds) : v ∈ state.tree.kinds := by
  cases perform_step h request with
  | keep _ _ old => apply old v hv
  | take _ _ old =>
    cases old v hv with
    | inl heq => exact absurd (heq ▸ hissued) state.names.upcoming_not_issued
    | inr hv => exact hv

theorem issued_perform (h : state.Sound)
    (hv : v ∈ state.tree.kinds ∨ v ∈ (state.perform request).tree.kinds) :
    (state.perform request).names.Issued v := by
  cases hv with
  | inl hv => apply issued_run (h.issued hv) h [request]
  | inr hv => apply (h.step (perform_step h request)).issued hv

theorem damages_issued (h : state.Sound) (hmarks : request.Damages state v) :
    (state.perform request).names.Issued v := by
  rcases hmarks with ⟨haccepted, hmarks⟩
  apply issued_perform h
  cases request with
  | insert parent kind =>
    rcases haccepted with ⟨tree, hinsert⟩
    apply Or.inr
    simp only [perform, hinsert]
    rw [ViewTree.insert_eq_ok_iff] at hinsert
    rw [hinsert.2, ViewTree.attach_mem_kinds]
    apply Or.inl hmarks
  | remove w => apply Or.inl (h.wellFormed.superview_mem hmarks)
  | clear w =>
    rcases haccepted with ⟨tree, hclear⟩
    apply Or.inl (hmarks ▸ h.wellFormed.mem_of_clear hclear)
  | place w bounds =>
    apply Or.inl
    cases hmarks with
    | inl heq => apply heq ▸ h.wellFormed.mem_of_place haccepted
    | inr hp => apply h.wellFormed.superview_mem hp
  | modifyKind w change =>
    rcases haccepted with ⟨tree, hmodify⟩
    apply Or.inl (hmarks ▸ (ViewTree.modifyKind?_effect hmodify).1)
  | _ => contradiction

theorem disarranges_issued (h : state.Sound) (hmarks : request.Disarranges state v) :
    (state.perform request).names.Issued v := by
  rcases hmarks with ⟨haccepted, hmarks⟩
  apply issued_perform h
  apply Or.inl
  cases request with
  | insert parent kind =>
    rcases haccepted with ⟨tree, hinsert⟩
    rw [ViewTree.insert_eq_ok_iff] at hinsert
    apply hmarks ▸ hinsert.1
  | remove w => apply h.wellFormed.superview_mem hmarks
  | clear w =>
    rcases haccepted with ⟨tree, hclear⟩
    apply hmarks ▸ h.wellFormed.mem_of_clear hclear
  | place w bounds => apply hmarks.1 ▸ h.wellFormed.mem_of_place haccepted
  | _ => contradiction

section Marking

variable {take : TreeRequest K} {Marks : NamedTree K → ViewId → TreeRequest K → Prop}

def MarkedSince (take : TreeRequest K) (Marks : NamedTree K → ViewId → TreeRequest K → Prop)
    (state : NamedTree K) (requests : List (TreeRequest K)) (v : ViewId) : Prop :=
  ∃ earlier request later, requests = earlier ++ request :: later ∧ take ∉ later ∧
    Marks (state.run earlier) v request

theorem markedSince_concat {requests : List (TreeRequest K)} :
    MarkedSince take Marks state (requests ++ [request]) v ↔
      request ≠ take ∧ MarkedSince take Marks state requests v ∨
        Marks (state.run requests) v request := by
  constructor
  · intro ⟨earlier, marking, later, heq, hlater, hmarks⟩
    cases List.eq_nil_or_concat later with
    | inl hnil =>
      rw [hnil] at heq
      rcases List.append_inj' heq rfl with ⟨rfl, hlast⟩
      injection hlast with hlast
      exact Or.inr (hlast ▸ hmarks)
    | inr hconcat =>
      rcases hconcat with ⟨between, last, rfl⟩
      rw [List.concat_eq_append] at heq hlater
      rw [← List.cons_append, ← List.append_assoc] at heq
      rcases List.append_inj' heq rfl with ⟨hbefore, hlast⟩
      injection hlast with hlast
      rw [List.mem_append, not_or, List.mem_singleton, ← hlast] at hlater
      have hne : request ≠ take := fun heq => hlater.2 heq.symm
      exact Or.inl ⟨hne, earlier, marking, between, hbefore, hlater.1, hmarks⟩
  · intro h
    cases h with
    | inl h =>
      rcases h with ⟨hne, earlier, marking, later, rfl, hlater, hmarks⟩
      refine ⟨earlier, marking, later ++ [request], by simp, ?_, hmarks⟩
      simp [hlater, hne.symm]
    | inr hmarks => exact ⟨requests, request, [], rfl, List.not_mem_nil, hmarks⟩

variable {marked : ViewTree K → Std.ExtTreeSet ViewId}
  (hmem : ∀ {state : NamedTree K} {v : ViewId}, state.Sound → v ∈ marked state.tree →
    v ∈ state.tree.kinds)
  (hissued : ∀ {state : NamedTree K} {request v}, state.Sound → Marks state v request →
    (state.perform request).names.Issued v)
  (hperform : ∀ {state : NamedTree K} {request v}, state.Sound →
    v ∈ (state.perform request).tree.kinds →
      (v ∈ marked (state.perform request).tree ↔
        request ≠ take ∧ v ∈ marked state.tree ∨ Marks state v request))

include hissued in
theorem MarkedSince.issued {requests : List (TreeRequest K)}
    (hmarked : MarkedSince take Marks state requests v) (h : state.Sound) :
    (state.run requests).names.Issued v := by
  rcases hmarked with ⟨earlier, request, later, rfl, -, hmarks⟩
  have hearlier := h.run earlier
  have hnow := hearlier.step (perform_step hearlier request)
  rw [run_append]
  exact issued_run (hissued hearlier hmarks) hnow later

include hmem hissued hperform in
theorem run_mem_marked (h : state.Sound) (requests : List (TreeRequest K)) (v : ViewId) :
    v ∈ marked (state.run requests).tree ↔
      v ∈ (state.run requests).tree.kinds ∧
        (take ∉ requests ∧ v ∈ marked state.tree ∨ MarkedSince take Marks state requests v) := by
  induction requests using List.reverseRecOn generalizing v with
  | nil =>
    have hnone : ¬ MarkedSince take Marks state [] v := by
      intro ⟨earlier, request, later, heq, hmarks⟩
      simp at heq
    simp only [run, List.foldl_nil, List.not_mem_nil, not_false_eq_true, true_and, hnone, or_false]
    constructor
    · exact fun hv => ⟨hmem h hv, hv⟩
    · exact fun hv => hv.2
  | append_singleton requests request ih =>
    have hnow := h.run requests
    have hnext := hnow.step (perform_step hnow request)
    -- a view that was marked some time ago has not just been made
    have hold (hv : v ∈ ((state.run requests).perform request).tree.kinds)
        (hmarked : take ∉ requests ∧ v ∈ marked state.tree ∨
          MarkedSince take Marks state requests v) : v ∈ (state.run requests).tree.kinds := by
      apply mem_of_issued hnow _ hv
      cases hmarked with
      | inl hstart => apply issued_run (h.issued (hmem h hstart.2)) h
      | inr hmarked => apply hmarked.issued hissued h
    have hlast : state.run (requests ++ [request]) = (state.run requests).perform request :=
      run_append state requests [request]
    rw [hlast, markedSince_concat, List.mem_append, List.mem_singleton, not_or]
    constructor
    · intro hv
      have hkinds := hmem hnext hv
      rw [hperform hnow hkinds, ih] at hv
      refine ⟨hkinds, ?_⟩
      rcases hv with ⟨hne, -, hstart | hmarked⟩ | hmarks
      · apply Or.inl ⟨⟨hstart.1, hne.symm⟩, hstart.2⟩
      · apply Or.inr (Or.inl ⟨hne, hmarked⟩)
      · apply Or.inr (Or.inr hmarks)
    · intro ⟨hkinds, hv⟩
      rw [hperform hnow hkinds, ih]
      rcases hv with ⟨hne, hstart⟩ | ⟨hne, hmarked⟩ | hmarks
      · have hstart : take ∉ requests ∧ v ∈ marked state.tree := ⟨hne.1, hstart⟩
        exact Or.inl ⟨fun heq => hne.2 heq.symm, hold hkinds (Or.inl hstart), Or.inl hstart⟩
      · exact Or.inl ⟨hne, hold hkinds (Or.inr hmarked), Or.inr hmarked⟩
      · apply Or.inr hmarks

end Marking

theorem run_new_marks (names : ViewNames) (requests : List (TreeRequest K)) :
    let start : NamedTree K := new names
    let tree := (start.run requests).tree
    tree.takeUnarranged.1.Pairwise (compare · · = .lt) ∧
      (∀ v, v ∈ tree.takeUnarranged.1 ↔
        tree.contains v ∧
          MarkedSince .takeUnarranged TreeRequest.Disarranges start requests v) ∧
      tree.takeDamaged.1.Pairwise (compare · · = .lt) ∧
      ∀ v, v ∈ tree.takeDamaged.1 ↔
        tree.contains v ∧
          (.takeDamaged ∉ requests ∧ start.tree.root = v ∨
            MarkedSince .takeDamaged TreeRequest.Damages start requests v) := by
  have hstart : (new names : NamedTree K).Sound := new_sound names
  refine ⟨Std.ExtTreeSet.ordered_toList, ?_, Std.ExtTreeSet.ordered_toList, ?_⟩
  · intro v
    have hmarked := run_mem_marked (fun h hv => h.wellFormed.mem_of_unarranged hv)
      disarranges_issued (fun h hv => (perform_mem_marks h hv).2) hstart requests v
    have hnone : v ∉ (new names : NamedTree K).tree.unarranged := by
      simp [new, ViewTree.ofRoot, ViewTree.enter, ViewTree.damage]
    simp only [ViewTree.takeUnarranged, Std.ExtTreeSet.mem_toList]
    rw [hmarked]
    simp [hnone, ViewTree.contains_iff_mem]
  · intro v
    have hmarked := run_mem_marked (fun h hv => h.wellFormed.mem_of_damaged hv)
      damages_issued (fun h hv => (perform_mem_marks h hv).1) hstart requests v
    have hroot : v ∈ (new names : NamedTree K).tree.damaged ↔
        (new names : NamedTree K).tree.root = v := by
      simp [new, ViewTree.ofRoot, ViewTree.enter, ViewTree.damage]
    simp only [ViewTree.takeDamaged, Std.ExtTreeSet.mem_toList]
    rw [hmarked, hroot, ViewTree.contains_iff_mem]

end NamedTree

end ViewMotion
