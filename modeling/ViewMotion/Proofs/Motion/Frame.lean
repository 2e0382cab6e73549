import ViewMotion.Motion.Frame
import ViewMotion.Proofs.ViewTree.Operations

/-!
This module contains what a frame does to the motions of an animator and to the views of a tree.
-/

namespace ViewMotion

variable {K : Type} [Scalar K]

namespace Motion

def phaseAt (motion : Motion K) (now : Instant) (placed : Bool) : Phase :=
  if placed then if motion.isDone now then .completed else .running else .cancelled

def ending? (now : Instant) (tree : ViewTree K) (v : ViewId) (motion : Motion K) : Option Phase :=
  let phase := motion.phaseAt now (tree.bounds? v).isSome
  if phase.isOver then some phase else none

def left? (now : Instant) (tree : ViewTree K) (v : ViewId) (motion : Motion K) :
    Option (Motion K) :=
  let phase := motion.phaseAt now (tree.bounds? v).isSome
  if phase.isOver then none else some { motion with phase }

theorem isDone_with_phase (motion : Motion K) (phase : Phase) (now : Instant) :
    ({ motion with phase } : Motion K).isDone now = motion.isDone now := rfl

theorem left?_eq_some_iff {now : Instant} {tree : ViewTree K} {v : ViewId}
    {motion left : Motion K} :
    left? now tree v motion = some left ↔
      (tree.bounds? v).isSome ∧ ¬ motion.isDone now ∧ { motion with phase := .running } = left := by
  unfold left? phaseAt
  cases (tree.bounds? v).isSome with
  | false => simp [Phase.isOver]
  | true => cases hdone : motion.isDone now <;> simp [Phase.isOver]

theorem ending?_eq (now : Instant) (tree : ViewTree K) (v : ViewId) (motion : Motion K) :
    ending? now tree v motion =
      if (tree.bounds? v).isSome then if motion.isDone now then some .completed else none
      else some .cancelled := by
  unfold ending? phaseAt
  cases (tree.bounds? v).isSome with
  | false => rfl
  | true => cases motion.isDone now <;> rfl

theorem left?_congr {tree tree' : ViewTree K} {v : ViewId}
    (h : (tree'.bounds? v).isSome = (tree.bounds? v).isSome) (now : Instant) (motion : Motion K) :
    left? now tree' v motion = left? now tree v motion := by
  unfold left?
  rw [h]

theorem ending?_congr {tree tree' : ViewTree K} {v : ViewId}
    (h : (tree'.bounds? v).isSome = (tree.bounds? v).isSome) (now : Instant) (motion : Motion K) :
    ending? now tree' v motion = ending? now tree v motion := by
  unfold ending?
  rw [h]

section Bringing

variable (now : Instant)

theorem bring_eq (motion : Motion K) (v : ViewId) (tree : ViewTree K) :
    motion.bring v now tree =
      ({ motion with phase := motion.phaseAt now (tree.bounds? v).isSome },
        (tree.place v (motion.rectAt now)).2) := by
  have hfound := tree.place_fst v (motion.rectAt now)
  unfold bring
  dsimp only [HasBounds.place]
  rw [← hfound]
  cases tree.place v (motion.rectAt now) with
  | mk found after =>
    cases found with
    | false => rfl
    | true => rfl

theorem bringAll_snd (order : List (ViewId × Motion K)) (tree : ViewTree K) :
    (bringAll now order tree).2 =
      order.foldl (fun tree entry => (tree.place entry.1 (entry.2.rectAt now)).2) tree := by
  induction order generalizing tree with
  | nil => rfl
  | cons entry order ih =>
    unfold bringAll
    rw [bring_eq]
    apply ih

theorem bringAll_cons (entry : ViewId × Motion K) (order : List (ViewId × Motion K))
    (tree : ViewTree K) :
    (bringAll now (entry :: order) tree).2 =
      (bringAll now order (tree.place entry.1 (entry.2.rectAt now)).2).2 := by
  rw [bringAll_snd, bringAll_snd, List.foldl_cons]

theorem bringAll_fst (order : List (ViewId × Motion K)) (tree : ViewTree K) :
    (bringAll now order tree).1 = order.map fun entry =>
      (entry.1, { entry.2 with phase := entry.2.phaseAt now (tree.bounds? entry.1).isSome }) := by
  induction order generalizing tree with
  | nil => rfl
  | cons entry order ih =>
    unfold bringAll
    rw [bring_eq]
    dsimp only
    rw [ih, List.map_cons]
    simp only [ViewTree.place_bounds?_isSome]

theorem bringAll_bounds?_of_notMem {order : List (ViewId × Motion K)} {v : ViewId}
    (h : ∀ entry ∈ order, entry.1 ≠ v) (tree : ViewTree K) :
    (bringAll now order tree).2.bounds? v = tree.bounds? v := by
  induction order generalizing tree with
  | nil => rfl
  | cons entry order ih =>
    have hv : ¬ entry.1 = v := h entry List.mem_cons_self
    rw [bringAll_cons, ih fun e he => h e (List.mem_cons_of_mem entry he),
      ViewTree.place_bounds?, if_neg hv]

theorem bringAll_bounds?_of_mem {order : List (ViewId × Motion K)} {v : ViewId}
    {motion : Motion K} (hkeys : order.Pairwise fun a b => a.1 ≠ b.1)
    (h : (v, motion) ∈ order) (tree : ViewTree K) :
    (bringAll now order tree).2.bounds? v =
      (tree.bounds? v).map fun _ => motion.rectAt now := by
  induction order generalizing tree with
  | nil => contradiction
  | cons entry order ih =>
    rw [List.pairwise_cons] at hkeys
    rw [bringAll_cons]
    cases List.mem_cons.mp h with
    | inl heq =>
      subst heq
      rw [bringAll_bounds?_of_notMem now fun e he => (hkeys.1 e he).symm,
        ViewTree.place_bounds?, if_pos rfl]
    | inr hmem =>
      have hv : ¬ entry.1 = v := hkeys.1 (v, motion) hmem
      rw [ih hkeys.2 hmem, ViewTree.place_bounds?, if_neg hv]

theorem bringAll_keeps {β : Type} (part : ViewTree K → β)
    (hplace : ∀ tree v bounds, part (tree.place v bounds).2 = part tree)
    (order : List (ViewId × Motion K)) (tree : ViewTree K) :
    part (bringAll now order tree).2 = part tree := by
  induction order generalizing tree with
  | nil => rfl
  | cons entry order ih => rw [bringAll_cons, ih, hplace]

theorem bringAll_mem_damaged (order : List (ViewId × Motion K)) (tree : ViewTree K) (w : ViewId) :
    w ∈ (bringAll now order tree).2.damaged ↔
      w ∈ tree.damaged ∨ ∃ entry ∈ order, (tree.bounds? entry.1).isSome ∧
        (entry.1 = w ∨ tree.superview? entry.1 = some w) := by
  induction order generalizing tree with
  | nil => simp [bringAll]
  | cons entry order ih =>
    rw [bringAll_cons, ih, ViewTree.place_mem_damaged]
    simp only [ViewTree.place_superview?, ViewTree.place_bounds?_isSome,
      List.exists_mem_cons_iff, or_assoc]

end Bringing

end Motion

theorem ofList_toList {β : Type} (entries : Std.ExtTreeMap ViewId β) :
    Std.ExtTreeMap.ofList entries.toList = entries := by
  apply Std.ExtTreeMap.ext_getElem?
  intro v
  cases hv : entries[v]? with
  | none =>
    apply Std.ExtTreeMap.getElem?_ofList_of_contains_eq_false
    rw [Std.ExtTreeMap.map_fst_toList_eq_keys, Std.ExtTreeMap.contains_keys,
      Std.ExtTreeMap.contains_eq_isSome_getElem?, hv]
    rfl
  | some x =>
    apply Std.ExtTreeMap.getElem?_ofList_of_mem Std.ReflCmp.compare_self
    · apply Std.ExtTreeMap.distinct_keys_toList
    · apply Std.ExtTreeMap.mem_toList_iff_getElem?_eq_some.mpr hv

theorem toList_keys_ne {β : Type} (entries : Std.ExtTreeMap ViewId β) :
    entries.toList.Pairwise fun a b => a.1 ≠ b.1 := by
  apply Std.ExtTreeMap.distinct_keys_toList.imp
  intro a b h
  rw [Std.LawfulEqOrd.compare_eq_iff_eq] at h
  exact h

def FrameReport.endings (report : FrameReport) (v : ViewId) : List Phase :=
  (report.ended.filter (·.1 = v)).map (·.2)

section Endings

variable {α : Type} (ending? : ViewId → α → Option Phase) {entries : List (ViewId × α)} {v : ViewId}

theorem endingsOf_of_notMem (h : ∀ entry ∈ entries, entry.1 ≠ v) :
    ((entries.filterMap fun entry => (ending? entry.1 entry.2).map (entry.1, ·)).filter
      (·.1 = v)).map (·.2) = [] := by
  rw [List.map_eq_nil_iff, List.filter_eq_nil_iff]
  intro found hfound heq
  rw [List.mem_filterMap] at hfound
  rcases hfound with ⟨entry, hentry, hphase⟩
  rw [Option.map_eq_some_iff] at hphase
  rcases hphase with ⟨phase, -, hpair⟩
  rw [decide_eq_true_iff, ← hpair] at heq
  apply h entry hentry heq

theorem endingsOf_of_mem (hkeys : entries.Pairwise fun a b => a.1 ≠ b.1) {x : α}
    (h : (v, x) ∈ entries) :
    ((entries.filterMap fun entry => (ending? entry.1 entry.2).map (entry.1, ·)).filter
      (·.1 = v)).map (·.2) = (ending? v x).toList := by
  induction entries with
  | nil => contradiction
  | cons entry entries ih =>
    rw [List.pairwise_cons] at hkeys
    rw [List.filterMap_cons]
    cases List.mem_cons.mp h with
    | inl heq =>
      subst heq
      have hothers := endingsOf_of_notMem ending? fun e he => (hkeys.1 e he).symm
      dsimp only at hothers ⊢
      cases ending? v x with
      | none => exact hothers
      | some phase =>
        simp only [Option.map_some, List.filter_cons, decide_true, if_true, List.map_cons,
          hothers, Option.toList_some]
    | inr hmem =>
      have hne : ¬ entry.1 = v := hkeys.1 (v, x) hmem
      rw [← ih hkeys.2 hmem]
      cases ending? entry.1 entry.2 with
      | none => rfl
      | some phase => simp only [Option.map_some, List.filter_cons, hne, decide_false,
          Bool.false_eq_true, if_false]

end Endings

namespace Animator

variable {T : Type} [Clock T] (animator : Animator K T) (now : Instant) (tree : ViewTree K)

omit [Scalar K] [Clock T] in
theorem isMoving_eq_isSome (v : ViewId) : animator.isMoving v = (animator.motion? v).isSome :=
  Std.ExtTreeMap.contains_eq_isSome_getElem?

omit [Scalar K] [Clock T] in
variable {animator} in
theorem isMoving_of_motion? {v : ViewId} {motion : Motion K}
    (h : animator.motion? v = some motion) : animator.isMoving v := by
  rw [isMoving_eq_isSome, h]
  rfl

theorem frame_ended :
    (animator.frame now tree).1.ended = animator.motions.toList.filterMap fun entry =>
      (entry.2.ending? now tree entry.1).map (entry.1, ·) := by
  unfold frame frameInOrder FrameReport.ofMotions
  dsimp only
  rw [Motion.bringAll_fst, List.filterMap_map]
  apply congrArg fun f => List.filterMap f animator.motions.toList
  funext entry
  unfold Motion.ending?
  dsimp only [Function.comp]
  split <;> rfl

theorem frame_endings (v : ViewId) :
    (animator.frame now tree).1.endings v =
      ((animator.motion? v).bind (Motion.ending? now tree v)).toList := by
  unfold FrameReport.endings
  rw [frame_ended]
  cases hv : animator.motion? v with
  | none =>
    apply endingsOf_of_notMem
    intro entry hentry heq
    rw [Std.ExtTreeMap.mem_toList_iff_getElem?_eq_some, heq] at hentry
    unfold motion? at hv
    rw [hv] at hentry
    contradiction
  | some motion =>
    apply endingsOf_of_mem _ (toList_keys_ne animator.motions)
    apply Std.ExtTreeMap.mem_toList_iff_getElem?_eq_some.mpr hv

theorem frame_animator :
    (animator.frame now tree).2.1 =
      { animator with motions := animator.motions.filterMap (Motion.left? now tree) }.rest := by
  have hleft : ((Motion.bringAll now animator.motions.toList tree).1.filter fun entry =>
      !entry.2.phase.isOver) = (animator.motions.filterMap (Motion.left? now tree)).toList := by
    rw [Motion.bringAll_fst, ← List.filterMap_eq_filter, List.filterMap_map,
      Std.ExtTreeMap.toList_filterMap]
    apply congrArg fun f => List.filterMap f animator.motions.toList
    funext entry
    unfold Motion.left?
    dsimp only [Function.comp, Option.guard]
    by_cases hover : (entry.2.phaseAt now (tree.bounds? entry.1).isSome).isOver
    · simp [hover]
    · simp [hover]
  unfold frame frameInOrder
  dsimp only
  rw [hleft, ofList_toList]

theorem frame_motion? (v : ViewId) :
    (animator.frame now tree).2.1.motion? v =
      (animator.motion? v).bind (Motion.left? now tree v) := by
  rw [frame_animator]
  unfold motion?
  rw [rest_motions]
  apply Std.ExtTreeMap.getElem?_filterMap'

theorem frame_tree :
    (animator.frame now tree).2.2 = (Motion.bringAll now animator.motions.toList tree).2 := rfl

theorem frame_bounds? (v : ViewId) :
    (animator.frame now tree).2.2.bounds? v =
      match animator.motion? v with
      | none => tree.bounds? v
      | some motion => (tree.bounds? v).map fun _ => motion.rectAt now := by
  rw [frame_tree]
  split
  · next hv =>
    apply Motion.bringAll_bounds?_of_notMem
    intro entry hentry heq
    rw [Std.ExtTreeMap.mem_toList_iff_getElem?_eq_some, heq] at hentry
    unfold motion? at hv
    rw [hv] at hentry
    contradiction
  · next motion hv =>
    apply Motion.bringAll_bounds?_of_mem now (toList_keys_ne animator.motions)
    apply Std.ExtTreeMap.mem_toList_iff_getElem?_eq_some.mpr hv

theorem frame_mem_damaged (w : ViewId) :
    w ∈ (animator.frame now tree).2.2.damaged ↔
      w ∈ tree.damaged ∨ ∃ v, animator.isMoving v ∧ (tree.bounds? v).isSome ∧
        (v = w ∨ tree.superview? v = some w) := by
  rw [frame_tree, Motion.bringAll_mem_damaged]
  apply or_congr_right
  constructor
  · intro ⟨entry, hentry, hplaced⟩
    refine ⟨entry.1, ?_, hplaced⟩
    rw [Std.ExtTreeMap.mem_toList_iff_getElem?_eq_some] at hentry
    rw [isMoving_eq_isSome]
    unfold motion?
    rw [hentry]
    rfl
  · intro ⟨v, hv, hplaced⟩
    rw [isMoving_eq_isSome, Option.isSome_iff_exists] at hv
    rcases hv with ⟨motion, hv⟩
    exact ⟨(v, motion), Std.ExtTreeMap.mem_toList_iff_getElem?_eq_some.mpr hv, hplaced⟩

theorem frame_keeps {β : Type} (part : ViewTree K → β)
    (hplace : ∀ tree v bounds, part (tree.place v bounds).2 = part tree) :
    part (animator.frame now tree).2.2 = part tree :=
  Motion.bringAll_keeps now part hplace animator.motions.toList tree

theorem frame_bounds?_isSome (v : ViewId) :
    ((animator.frame now tree).2.2.bounds? v).isSome = (tree.bounds? v).isSome :=
  animator.frame_keeps now tree (fun tree => (tree.bounds? v).isSome)
    fun tree u bounds => tree.place_bounds?_isSome u v bounds

theorem frame_superview? (v : ViewId) :
    (animator.frame now tree).2.2.superview? v = tree.superview? v :=
  animator.frame_keeps now tree (fun tree => tree.superview? v)
    fun tree u bounds => tree.place_superview? u v bounds

end Animator

end ViewMotion
