import ViewMotion.Proofs.Motion.Frame

/-!
This module contains what becomes of the motions of an animator in a frame, whoever owns the views:
each motion is either over and reported once, or it is kept and not reported.
-/

namespace ViewMotion

variable {K V : Type} [Scalar K] [HasBounds V K]

namespace Motion

variable (now : Instant)

theorem phaseAt_cases (motion : Motion K) (placed : Bool) :
    motion.phaseAt now placed = .running ∨ (motion.phaseAt now placed).isOver := by
  unfold phaseAt
  cases placed with
  | false => apply Or.inr rfl
  | true =>
    cases motion.isDone now with
    | false => apply Or.inl rfl
    | true => apply Or.inr rfl

def end? (motion : Motion K) : Option Phase :=
  if motion.phase.isOver then some motion.phase else none

theorem bring_fst (motion : Motion K) (v : ViewId) (views : V) :
    let placed := (HasBounds.place views v (motion.rectAt now)).1
    (motion.bring v now views).1 = { motion with phase := motion.phaseAt now placed } := by
  unfold bring phaseAt
  cases HasBounds.place views v (motion.rectAt now) with
  | mk placed after => cases placed <;> rfl

theorem mem_bringAll_fst {order : List (ViewId × Motion K)} {v : ViewId} {motion : Motion K}
    (h : (v, motion) ∈ order) (views : V) :
    ∃ placed, (v, { motion with phase := motion.phaseAt now placed }) ∈
      (bringAll now order views).1 := by
  induction order generalizing views with
  | nil => contradiction
  | cons entry order ih =>
    unfold bringAll
    dsimp only
    cases List.mem_cons.mp h with
    | inl heq =>
      refine ⟨(HasBounds.place views v (motion.rectAt now)).1, ?_⟩
      rw [← heq, bring_fst]
      apply List.mem_cons_self
    | inr hmem =>
      rcases ih hmem (entry.2.bring entry.1 now views).2 with ⟨placed, hplaced⟩
      exact ⟨placed, List.mem_cons_of_mem _ hplaced⟩

end Motion

namespace Animator

variable {T : Type} (animator : Animator K T) (now : Instant) (views : V)

def brought : List (ViewId × Motion K) := (Motion.bringAll now animator.motions.toList views).1

theorem brought_map_fst : (animator.brought now views).map Prod.fst = animator.motions.keys := by
  unfold brought
  rw [Motion.bringAll_map_fst, Std.ExtTreeMap.map_fst_toList_eq_keys]

theorem brought_length : (animator.brought now views).length = animator.motions.size := by
  rw [← Std.ExtTreeMap.length_keys, ← brought_map_fst animator now views, List.length_map]

theorem brought_ordered :
    (animator.brought now views).Pairwise fun a b => compare a.1 b.1 = .lt := by
  have hkeys := animator.motions.ordered_keys
  rw [← brought_map_fst animator now views, List.pairwise_map] at hkeys
  exact hkeys

theorem brought_nodup : ((animator.brought now views).map Prod.fst).Nodup := by
  rw [brought_map_fst]
  apply Std.ExtTreeMap.nodup_keys

theorem brought_keys_ne : (animator.brought now views).Pairwise fun a b => a.1 ≠ b.1 :=
  List.pairwise_map.mp (animator.brought_nodup now views)

theorem brought_ne_of_motion? {v : ViewId} (h : animator.motion? v = none) :
    ∀ entry ∈ animator.brought now views, entry.1 ≠ v := by
  intro entry hentry heq
  have hmem : entry.1 ∈ animator.motions.keys := by
    rw [← animator.brought_map_fst now views]
    apply List.mem_map_of_mem hentry
  rw [heq, Std.ExtTreeMap.mem_keys, Std.ExtTreeMap.mem_iff_isSome_getElem?] at hmem
  unfold motion? at h
  rw [h] at hmem
  contradiction

theorem left_keys_ne :
    ((animator.brought now views).filter fun entry => !entry.2.phase.isOver).Pairwise
      fun a b => ¬ compare a.1 b.1 = .eq := by
  apply ((animator.brought_keys_ne now views).filter _).imp
  intro a b hne
  rw [Std.LawfulEqOrd.compare_eq_iff_eq]
  exact hne

variable [Clock T]

theorem frame_ended_eq :
    (animator.frame now views).1.ended =
      (animator.brought now views).filterMap fun entry => entry.2.end?.map (entry.1, ·) := by
  unfold frame frameInOrder FrameReport.ofMotions Motion.end?
  apply congrArg fun f => List.filterMap f (animator.brought now views)
  funext entry
  dsimp only
  split <;> rfl

theorem frame_motions :
    (animator.frame now views).2.1.motions =
      .ofList ((animator.brought now views).filter fun entry => !entry.2.phase.isOver) := by
  unfold frame frameInOrder
  apply rest_motions

theorem frame_ended_ordered :
    (animator.frame now views).1.ended.Pairwise fun a b => compare a.1 b.1 = .lt := by
  rw [frame_ended_eq, List.pairwise_filterMap]
  apply (animator.brought_ordered now views).imp
  intro a b hlt found hfound found' hfound'
  rw [Option.map_eq_some_iff] at hfound hfound'
  rcases hfound with ⟨phase, -, rfl⟩
  rcases hfound' with ⟨phase', -, rfl⟩
  exact hlt

theorem frame_ended_isOver :
    ∀ entry ∈ (animator.frame now views).1.ended, entry.2.isOver := by
  intro entry hentry
  rw [frame_ended_eq, List.mem_filterMap] at hentry
  rcases hentry with ⟨found, -, hfound⟩
  rw [Option.map_eq_some_iff] at hfound
  rcases hfound with ⟨phase, hphase, rfl⟩
  unfold Motion.end? at hphase
  split at hphase
  · next hover =>
    injection hphase with hphase
    exact hphase ▸ hover
  · contradiction

theorem frame_size_add_ended :
    (animator.frame now views).2.1.motions.size + (animator.frame now views).1.ended.length =
      animator.motions.size := by
  have hended : (animator.frame now views).1.ended.length =
      (animator.brought now views).countP fun entry => entry.2.phase.isOver := by
    rw [frame_ended_eq, List.length_filterMap_eq_countP]
    apply List.countP_congr
    intro entry _
    unfold Motion.end?
    split
    · next hover => simp [hover]
    · next hover => simp [hover]
  have hsplit := (animator.brought now views).length_eq_countP_add_countP fun entry =>
    entry.2.phase.isOver
  rw [frame_motions, Std.ExtTreeMap.size_ofList (animator.left_keys_ne now views),
    ← List.countP_eq_length_filter, hended, ← brought_length animator now views, hsplit,
    Nat.add_comm]
  simp

variable {now views} {v : ViewId} {motion : Motion K}

theorem frame_endings_of_notMem (h : ∀ entry ∈ animator.brought now views, entry.1 ≠ v) :
    (animator.frame now views).1.endings v = [] := by
  unfold FrameReport.endings
  rw [frame_ended_eq]
  apply endingsOf_of_notMem (fun _ motion => motion.end?) h

theorem frame_motion?_of_notMem (h : ∀ entry ∈ animator.brought now views, entry.1 ≠ v) :
    (animator.frame now views).2.1.motion? v = none := by
  unfold motion?
  rw [frame_motions]
  apply Std.ExtTreeMap.getElem?_ofList_of_contains_eq_false
  rw [Bool.eq_false_iff, ne_eq, List.contains_iff_mem, List.mem_map]
  intro ⟨entry, hentry, heq⟩
  apply h entry (List.mem_of_mem_filter hentry) heq

theorem frame_endings_of_mem (h : (v, motion) ∈ animator.brought now views) :
    (animator.frame now views).1.endings v = motion.end?.toList := by
  unfold FrameReport.endings
  rw [frame_ended_eq]
  apply endingsOf_of_mem (fun _ motion => motion.end?) (animator.brought_keys_ne now views) h

theorem frame_motion?_of_mem (h : (v, motion) ∈ animator.brought now views) :
    (animator.frame now views).2.1.motion? v =
      if motion.phase.isOver then none else some motion := by
  unfold motion?
  rw [frame_motions]
  split
  · next hover =>
    apply Std.ExtTreeMap.getElem?_ofList_of_contains_eq_false
    rw [Bool.eq_false_iff, ne_eq, List.contains_iff_mem, List.mem_map]
    intro ⟨entry, hentry, heq⟩
    rw [List.mem_filter] at hentry
    have hsame : entry = (v, motion) :=
      List.inj_on_of_nodup_map (animator.brought_nodup now views) hentry.1 h heq
    rw [hsame, hover] at hentry
    exact absurd hentry.2 Bool.false_ne_true
  · next hnot =>
    apply Std.ExtTreeMap.getElem?_ofList_of_mem Std.ReflCmp.compare_self
      (animator.left_keys_ne now views)
    simp [List.mem_filter, h, hnot]

theorem frame_outcome (now : Instant) (views : V) (v : ViewId) :
    match animator.motion? v with
    | none => (animator.frame now views).1.endings v = [] ∧
        (animator.frame now views).2.1.motion? v = none
    | some motion =>
      (animator.frame now views).1.endings v = [] ∧
          (animator.frame now views).2.1.motion? v = some { motion with phase := .running } ∨
        (∃ phase, (animator.frame now views).1.endings v = [phase]) ∧
          (animator.frame now views).2.1.motion? v = none := by
  cases hv : animator.motion? v with
  | none =>
    have hne := animator.brought_ne_of_motion? now views hv
    exact ⟨animator.frame_endings_of_notMem hne, animator.frame_motion?_of_notMem hne⟩
  | some motion =>
    obtain ⟨placed, hmem⟩ := Motion.mem_bringAll_fst now
      (Std.ExtTreeMap.mem_toList_iff_getElem?_eq_some.mpr hv) views
    dsimp only
    rw [animator.frame_endings_of_mem hmem, animator.frame_motion?_of_mem hmem]
    unfold Motion.end?
    cases motion.phaseAt_cases now placed with
    | inl hrunning =>
      rw [hrunning]
      exact Or.inl ⟨rfl, rfl⟩
    | inr hover =>
      rw [hover]
      exact Or.inr ⟨⟨_, rfl⟩, rfl⟩

end Animator

end ViewMotion
