import Mathlib.Data.List.Perm.Basic
import ViewMotion.Clock.Manual
import ViewMotion.Proofs.ExactScalar
import ViewMotion.Proofs.Motion.Frame
import ViewMotion.Proofs.ViewTree.History

/-!
This module contains the independence of a frame from the order in which it brings its motions to
their places. Motions of different views commute, also if one of the views is the superview of the
other or if both have the same superview.
-/

namespace ViewMotion

variable {K : Type} [Scalar K]

namespace ViewTree

variable (tree : ViewTree K) {v w : ViewId} (a b : Rect K)

theorem place_comm_bounds? (hne : v ≠ w) (u : ViewId) :
    ((tree.place v a).2.place w b).2.bounds? u = ((tree.place w b).2.place v a).2.bounds? u := by
  simp only [place_bounds?]
  by_cases hv : v = u
  · have hw : ¬ w = u := fun heq => hne (hv.trans heq.symm)
    simp [hv, hw]
  · simp [hv]

theorem place_comm_damaged :
    ((tree.place v a).2.place w b).2.damaged = ((tree.place w b).2.place v a).2.damaged := by
  apply Std.ExtTreeSet.ext_mem
  intro u
  simp only [place_mem_damaged, place_superview?, place_bounds?_isSome]
  rw [or_assoc, or_assoc]
  apply or_congr_right
  apply or_comm

/--
Whether a view has got another size depends on its own bounds only.
-/
theorem place_comm_unarranged (hne : v ≠ w) :
    ((tree.place v a).2.place w b).2.unarranged =
      ((tree.place w b).2.place v a).2.unarranged := by
  apply Std.ExtTreeSet.ext_mem
  intro u
  simp only [place_mem_unarranged, place_bounds?, if_neg hne, if_neg hne.symm]
  rw [or_assoc, or_assoc]
  apply or_congr_right
  apply or_comm

theorem place_comm (hne : v ≠ w) :
    ((tree.place v a).2.place w b).2 = ((tree.place w b).2.place v a).2 := by
  have hbounds : ((tree.place v a).2.place w b).2.bounds =
      ((tree.place w b).2.place v a).2.bounds := by
    apply Std.ExtTreeMap.ext_getElem?
    exact tree.place_comm_bounds? a b hne
  have hdamaged := tree.place_comm_damaged (v := v) (w := w) a b
  have hunarranged := tree.place_comm_unarranged a b hne
  rw [ViewTree.mk.injEq]
  simp only [place_root, place_kinds, place_superviews, place_subviewLists, place_groups,
    true_and]
  exact ⟨hbounds, hdamaged, hunarranged⟩

end ViewTree

section Reordering

variable {β σ : Type} {order order' : List (ViewId × β)}

theorem foldl_eq_of_perm (hperm : order.Perm order') (hkeys : order.Pairwise fun a b => a.1 ≠ b.1)
    {step : σ → ViewId × β → σ}
    (hcomm : ∀ a b : ViewId × β, a.1 ≠ b.1 → ∀ s, step (step s a) b = step (step s b) a) (s : σ) :
    order.foldl step s = order'.foldl step s := by
  apply hperm.foldl_eq'
  intro a ha b hb s
  by_cases heq : a.1 = b.1
  · -- a key stands for a single entry
    rw [List.inj_on_of_nodup_map (List.pairwise_map.mpr hkeys) ha hb heq]
  · exact hcomm a b heq s

theorem insert_comm (entries : Std.ExtTreeMap ViewId β) {v w : ViewId} (hne : v ≠ w) (x y : β) :
    (entries.insert v x).insert w y = (entries.insert w y).insert v x := by
  apply Std.ExtTreeMap.ext_getElem?
  intro u
  simp only [Std.ExtTreeMap.getElem?_insert, Std.LawfulEqOrd.compare_eq_iff_eq]
  by_cases hv : v = u
  · have hw : ¬ w = u := fun heq => hne (hv.trans heq.symm)
    simp [hv, hw]
  · simp [hv]

theorem ofList_eq_of_perm (hperm : order.Perm order')
    (hkeys : order.Pairwise fun a b => a.1 ≠ b.1) :
    Std.ExtTreeMap.ofList order = Std.ExtTreeMap.ofList order' := by
  rw [Std.ExtTreeMap.ofList_eq_foldl, Std.ExtTreeMap.ofList_eq_foldl]
  apply foldl_eq_of_perm hperm hkeys
  intro a b hne entries
  apply insert_comm entries hne

end Reordering

namespace Motion

variable (now : Instant) {order order' : List (ViewId × Motion K)} (hperm : order.Perm order')
  (tree : ViewTree K)

include hperm

theorem bringAll_fst_perm : (bringAll now order tree).1.Perm (bringAll now order' tree).1 := by
  rw [bringAll_fst, bringAll_fst]
  apply hperm.map

theorem bringAll_snd_eq (hkeys : order.Pairwise fun a b => a.1 ≠ b.1) :
    (bringAll now order tree).2 = (bringAll now order' tree).2 := by
  rw [bringAll_snd, bringAll_snd]
  apply foldl_eq_of_perm hperm hkeys
  intro a b hne tree
  apply tree.place_comm _ _ hne

omit hperm in
theorem bringAll_keys_ne (hkeys : order.Pairwise fun a b => a.1 ≠ b.1) :
    (bringAll now order tree).1.Pairwise fun a b => a.1 ≠ b.1 := by
  rw [← List.pairwise_map, bringAll_map_fst, List.pairwise_map]
  exact hkeys

end Motion

namespace Animator

variable {T : Type} [Clock T]

theorem frameInOrder_eq_frame (animator : Animator K T) (now : Instant) (tree : ViewTree K)
    {order : List (ViewId × Motion K)} (hperm : order.Perm animator.motions.toList) :
    let framed := animator.frame now tree
    let reordered := animator.frameInOrder order now tree
    reordered.2.2 = framed.2.2 ∧ reordered.2.1 = framed.2.1 ∧
      reordered.1.placed = framed.1.placed ∧ reordered.1.ended.Perm framed.1.ended := by
  have hkeys : order.Pairwise fun a b => a.1 ≠ b.1 :=
    hperm.symm.pairwise (toList_keys_ne animator.motions) Ne.symm
  have hbrought := Motion.bringAll_fst_perm now hperm tree
  have hleft : Std.ExtTreeMap.ofList ((Motion.bringAll now order tree).1.filter fun entry =>
        !entry.2.phase.isOver) =
      Std.ExtTreeMap.ofList ((Motion.bringAll now animator.motions.toList tree).1.filter
        fun entry => !entry.2.phase.isOver) :=
    ofList_eq_of_perm (hbrought.filter _) ((Motion.bringAll_keys_ne now tree hkeys).filter _)
  unfold frame frameInOrder FrameReport.ofMotions
  refine ⟨?_, ?_, ?_, ?_⟩
  · apply Motion.bringAll_snd_eq now hperm tree hkeys
  · dsimp only
    rw [hleft]
  · apply hbrought.countP_eq
  · apply hbrought.filterMap

theorem frameInOrder_eq_frame_of_siblings :
    let tree := ((NamedTree.new .counted : NamedTree Rat).run [
      .insert ⟨0⟩ .container, .insert ⟨1⟩ .container, .insert ⟨1⟩ .container]).tree
    let entry (v : ViewId) (duration : Duration) : ViewId × Motion Rat := (v, {
      view := v
      departure := .zero
      destination := .ofXYWH 1 2 3 4
      began := .epoch
      duration
      easing := .linear
      phase := .pending
    })
    let animator : Animator Rat ManualClock := {
      clock := ManualClock.atEpoch.subscribe
      defaults := {}
      motions := Std.ExtTreeMap.ofList [entry ⟨1⟩ ⟨5⟩, entry ⟨2⟩ ⟨9⟩, entry ⟨3⟩ ⟨8⟩, entry ⟨4⟩ ⟨7⟩]
    }
    let order := [entry ⟨4⟩ ⟨7⟩, entry ⟨3⟩ ⟨8⟩, entry ⟨1⟩ ⟨5⟩, entry ⟨2⟩ ⟨9⟩]
    let framed := animator.frame ⟨8⟩ tree
    let reordered := animator.frameInOrder order ⟨8⟩ tree
    tree.superview? ⟨2⟩ = some ⟨1⟩ ∧ tree.superview? ⟨3⟩ = some ⟨1⟩ ∧ ¬ tree.contains ⟨4⟩ ∧
      framed.1.ended = [(⟨1⟩, .completed), (⟨3⟩, .completed), (⟨4⟩, .cancelled)] ∧
      reordered.1.ended.Perm framed.1.ended ∧ reordered.1.ended ≠ framed.1.ended ∧
      reordered.2.1 = framed.2.1 ∧ reordered.2.2 = framed.2.2 := by
  intro tree entry animator order framed reordered
  have hperm : order.Perm animator.motions.toList := by decide +kernel
  have hsame := animator.frameInOrder_eq_frame ⟨8⟩ tree hperm
  refine ⟨by decide +kernel, by decide +kernel, by decide +kernel, by decide +kernel, hsame.2.2.2,
    by decide +kernel, hsame.2.1, hsame.1⟩

end Animator

end ViewMotion
