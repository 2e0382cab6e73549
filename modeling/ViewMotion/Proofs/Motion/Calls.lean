import ViewMotion.Proofs.Motion.Outcome

/-!
This module contains the calls that a frame makes to those who own the views. There is one for each
motion, and its answer decides what becomes of the motion.
-/

namespace ViewMotion

/--
A view is to be placed, and its owner has accepted that or not.
-/
structure PlaceCall (K : Type) where
  view : ViewId
  bounds : Rect K
  accepted : Bool
deriving DecidableEq, Repr

/--
Those who own the views, and the calls that they have got so far.
-/
structure Recorder (V K : Type) where
  views : V
  calls : List (PlaceCall K)

variable {K V : Type} [Scalar K] [HasBounds V K]

omit [Scalar K] in
instance : HasBounds (Recorder V K) K where
  bounds? recorder v := HasBounds.bounds? recorder.views v
  place recorder v bounds :=
    let (accepted, views) := HasBounds.place recorder.views v bounds
    (accepted, ⟨views, recorder.calls ++ [⟨v, bounds, accepted⟩]⟩)

namespace Motion

theorem rectAt_of_progress {motion : Motion K} {now : Instant} (h : 1 ≤ motion.progress now) :
    motion.rectAt now = motion.destination := by
  simp [rectAt, isDone, h]

theorem phaseAt_of_progress {motion : Motion K} {now : Instant} (h : ¬ 1 ≤ motion.progress now) :
    motion.phaseAt now true = .running := by
  simp [phaseAt, isDone, h]

variable (now : Instant)

def placeCalls : List (ViewId × Motion K) → V → List (PlaceCall K)
  | [], _ => []
  | (v, motion) :: rest, views =>
    let (accepted, views) := HasBounds.place views v (motion.rectAt now)
    ⟨v, motion.rectAt now, accepted⟩ :: placeCalls rest views

theorem bring_snd (motion : Motion K) (v : ViewId) (views : V) :
    (motion.bring v now views).2 = (HasBounds.place views v (motion.rectAt now)).2 := by
  unfold bring
  split <;> simp [*]

theorem bringAll_recorder (order : List (ViewId × Motion K)) (views : V)
    (earlier : List (PlaceCall K)) :
    bringAll now order (Recorder.mk views earlier) =
      ((bringAll now order views).1,
        ⟨(bringAll now order views).2, earlier ++ placeCalls now order views⟩) := by
  induction order generalizing views earlier with
  | nil => simp [bringAll, placeCalls]
  | cons entry order ih =>
    simp only [bringAll, placeCalls, bring_fst, bring_snd]
    simp only [HasBounds.place, ih]
    simp

theorem placeCalls_map (order : List (ViewId × Motion K)) (views : V) :
    ((placeCalls now order views).map fun call => (call.view, call.bounds)) =
      order.map fun entry => (entry.1, entry.2.rectAt now) := by
  induction order generalizing views with
  | nil => rfl
  | cons entry order ih => simp [placeCalls, ih]

theorem placeCalls_map_view (order : List (ViewId × Motion K)) (views : V) :
    (placeCalls now order views).map PlaceCall.view = order.map Prod.fst := by
  have hmap := congrArg (List.map Prod.fst) (placeCalls_map now order views)
  simp only [List.map_map] at hmap
  exact hmap

theorem countP_placed (order : List (ViewId × Motion K)) (views : V) :
    (bringAll now order views).1.countP (fun entry => entry.2.phase != .cancelled) =
      (placeCalls now order views).countP PlaceCall.accepted := by
  induction order generalizing views with
  | nil => rfl
  | cons entry order ih =>
    simp only [bringAll, placeCalls, bring_fst, bring_snd, List.countP_cons, ih]
    congr 2
    unfold phaseAt
    cases (HasBounds.place views entry.1 (entry.2.rectAt now)).1 with
    | false => rfl
    | true => cases entry.2.isDone now <;> rfl

theorem end?_phaseAt_eq_some_iff {motion : Motion K} {accepted : Bool} {phase : Phase} :
    ({ motion with phase := motion.phaseAt now accepted } : Motion K).end? = some phase ↔
      if accepted then phase = .completed ∧ 1 ≤ motion.progress now else phase = .cancelled := by
  have hdone : motion.isDone now ↔ 1 ≤ motion.progress now := by simp [isDone]
  unfold end? phaseAt
  cases accepted with
  | false => cases phase <;> simp [Phase.isOver]
  | true => cases hnow : motion.isDone now <;> cases phase <;> simp_all [Phase.isOver]

theorem not_phaseAt_isOver_iff {motion : Motion K} {accepted : Bool} :
    ¬ (motion.phaseAt now accepted).isOver ↔ accepted ∧ ¬ 1 ≤ motion.progress now := by
  have hdone : motion.isDone now ↔ 1 ≤ motion.progress now := by simp [isDone]
  unfold phaseAt
  cases accepted with
  | false => simp [Phase.isOver]
  | true => cases hnow : motion.isDone now <;> simp_all [Phase.isOver]

theorem exists_mem_of_mem_placeCalls {order : List (ViewId × Motion K)} {views : V}
    {call : PlaceCall K} (h : call ∈ placeCalls now order views) :
    ∃ entry ∈ order, entry.1 = call.view := by
  rw [← List.mem_map, ← placeCalls_map_view now order views]
  apply List.mem_map_of_mem h

theorem mem_bringAll_iff {order : List (ViewId × Motion K)}
    (hkeys : order.Pairwise fun a b => a.1 ≠ b.1) (views : V) (v : ViewId) (after : Motion K) :
    (v, after) ∈ (bringAll now order views).1 ↔
      ∃ motion accepted, (v, motion) ∈ order ∧
        ⟨v, motion.rectAt now, accepted⟩ ∈ placeCalls now order views ∧
        { motion with phase := motion.phaseAt now accepted } = after := by
  induction order generalizing views with
  | nil => simp [bringAll]
  | cons entry order ih =>
    rw [List.pairwise_cons] at hkeys
    simp only [bringAll, placeCalls, bring_fst, bring_snd, List.mem_cons, ih hkeys.2]
    constructor
    · intro h
      cases h with
      | inl heq =>
        injection heq with hv hafter
        subst hv
        exact ⟨entry.2, _, Or.inl rfl, Or.inl rfl, hafter.symm⟩
      | inr h =>
        obtain ⟨motion, accepted, hmem, hcall, hafter⟩ := h
        exact ⟨motion, accepted, Or.inr hmem, Or.inr hcall, hafter⟩
    · intro h
      obtain ⟨motion, accepted, hmem, hcall, hafter⟩ := h
      cases hcall with
      | inl hhead =>
        injection hhead with hv _ haccepted
        cases hmem with
        | inl heq =>
          subst heq haccepted
          apply Or.inl
          rw [← hafter]
        | inr hmem => exact absurd hv.symm (hkeys.1 (v, motion) hmem)
      | inr hcall =>
        cases hmem with
        | inl heq =>
          -- no later motion has this view, so no later call has it
          obtain ⟨other, hother, hsame⟩ := exists_mem_of_mem_placeCalls now hcall
          apply absurd _ (hkeys.1 other hother)
          rw [hsame, ← heq]
        | inr hmem => exact Or.inr ⟨motion, accepted, hmem, hcall, hafter⟩

end Motion

namespace Animator

variable {T : Type} [Clock T] (animator : Animator K T) (now : Instant) (views : V)

def placeCalls : List (PlaceCall K) := Motion.placeCalls now animator.motions.toList views

theorem frame_recorder (earlier : List (PlaceCall K)) :
    animator.frame now (Recorder.mk views earlier) =
      ((animator.frame now views).1, (animator.frame now views).2.1,
        ⟨(animator.frame now views).2.2, earlier ++ animator.placeCalls now views⟩) := by
  unfold frame frameInOrder
  rw [Motion.bringAll_recorder]
  rfl

omit [Clock T] in
theorem placeCalls_ordered :
    (animator.placeCalls now views).Pairwise fun a b => compare a.view b.view = .lt := by
  have hkeys := animator.motions.ordered_keys
  rw [← Std.ExtTreeMap.map_fst_toList_eq_keys, ← Motion.placeCalls_map_view now _ views,
    List.pairwise_map] at hkeys
  exact hkeys

omit [Clock T] in
theorem mem_brought_iff (v : ViewId) (after : Motion K) :
    (v, after) ∈ animator.brought now views ↔
      ∃ motion accepted, animator.motion? v = some motion ∧
        ⟨v, motion.rectAt now, accepted⟩ ∈ animator.placeCalls now views ∧
        { motion with phase := motion.phaseAt now accepted } = after := by
  unfold brought placeCalls motion?
  rw [Motion.mem_bringAll_iff now (toList_keys_ne animator.motions)]
  simp only [Std.ExtTreeMap.mem_toList_iff_getElem?_eq_some]

omit [Clock T] in
theorem motion?_of_mem_placeCalls {v : ViewId} {bounds : Rect K} {accepted : Bool}
    (h : ⟨v, bounds, accepted⟩ ∈ animator.placeCalls now views) :
    ∃ motion, animator.motion? v = some motion ∧ motion.rectAt now = bounds := by
  have hentry : (v, bounds) ∈
      animator.motions.toList.map fun entry => (entry.1, entry.2.rectAt now) := by
    rw [← Motion.placeCalls_map now _ views]
    apply List.mem_map_of_mem h
  rw [List.mem_map] at hentry
  obtain ⟨entry, hentry, heq⟩ := hentry
  injection heq with hview hbounds
  rw [Std.ExtTreeMap.mem_toList_iff_getElem?_eq_some, hview] at hentry
  exact ⟨entry.2, hentry, hbounds⟩

theorem mem_frame_ended_iff_end? (v : ViewId) (phase : Phase) :
    (v, phase) ∈ (animator.frame now views).1.ended ↔
      ∃ after, (v, after) ∈ animator.brought now views ∧ after.end? = some phase := by
  rw [frame_ended_eq, List.mem_filterMap]
  simp

theorem frame_motion?_iff_not_isOver (v : ViewId) (left : Motion K) :
    (animator.frame now views).2.1.motion? v = some left ↔
      (v, left) ∈ animator.brought now views ∧ ¬ left.phase.isOver := by
  constructor
  · intro hleft
    by_cases hne : ∀ entry ∈ animator.brought now views, entry.1 ≠ v
    · simp [animator.frame_motion?_of_notMem hne] at hleft
    · simp only [not_forall, not_not] at hne
      obtain ⟨⟨_, after⟩, hafter, rfl⟩ := hne
      rw [animator.frame_motion?_of_mem hafter] at hleft
      split at hleft
      · contradiction
      · next hnot =>
        injection hleft with hleft
        subst hleft
        exact ⟨hafter, hnot⟩
  · intro ⟨hmem, hnot⟩
    rw [animator.frame_motion?_of_mem hmem, if_neg hnot]

theorem mem_frame_ended_iff (v : ViewId) (phase : Phase) :
    (v, phase) ∈ (animator.frame now views).1.ended ↔
      phase = .cancelled ∧ (∃ bounds, ⟨v, bounds, false⟩ ∈ animator.placeCalls now views) ∨
      phase = .completed ∧ ∃ motion, animator.motion? v = some motion ∧
        1 ≤ motion.progress now ∧
        ⟨v, motion.destination, true⟩ ∈ animator.placeCalls now views := by
  simp only [mem_frame_ended_iff_end?, mem_brought_iff]
  constructor
  · intro ⟨_, ⟨motion, accepted, hmotion, hcall, hafter⟩, hphase⟩
    subst hafter
    rw [Motion.end?_phaseAt_eq_some_iff] at hphase
    cases accepted with
    | false => exact Or.inl ⟨hphase, _, hcall⟩
    | true =>
      rw [Motion.rectAt_of_progress hphase.2] at hcall
      exact Or.inr ⟨hphase.1, motion, hmotion, hphase.2, hcall⟩
  · intro h
    cases h with
    | inl h =>
      obtain ⟨hphase, bounds, hcall⟩ := h
      obtain ⟨motion, hmotion, hbounds⟩ := animator.motion?_of_mem_placeCalls now views hcall
      rw [← hbounds] at hcall
      refine ⟨_, ⟨motion, false, hmotion, hcall, rfl⟩, ?_⟩
      rw [Motion.end?_phaseAt_eq_some_iff]
      exact hphase
    | inr h =>
      obtain ⟨hphase, motion, hmotion, hdone, hcall⟩ := h
      rw [← Motion.rectAt_of_progress hdone] at hcall
      refine ⟨_, ⟨motion, true, hmotion, hcall, rfl⟩, ?_⟩
      rw [Motion.end?_phaseAt_eq_some_iff]
      exact ⟨hphase, hdone⟩

theorem frame_motion?_eq_some_iff (v : ViewId) (left : Motion K) :
    (animator.frame now views).2.1.motion? v = some left ↔
      ∃ motion, animator.motion? v = some motion ∧ ¬ 1 ≤ motion.progress now ∧
        ⟨v, motion.rectAt now, true⟩ ∈ animator.placeCalls now views ∧
        { motion with phase := .running } = left := by
  rw [frame_motion?_iff_not_isOver, mem_brought_iff]
  constructor
  · intro ⟨⟨motion, accepted, hmotion, hcall, hafter⟩, hnot⟩
    subst hafter
    obtain ⟨haccepted, hprogress⟩ := Motion.not_phaseAt_isOver_iff now |>.mp hnot
    subst haccepted
    refine ⟨motion, hmotion, hprogress, hcall, ?_⟩
    rw [Motion.phaseAt_of_progress hprogress]
  · intro ⟨motion, hmotion, hprogress, hcall, hafter⟩
    subst hafter
    refine ⟨⟨motion, true, hmotion, hcall, ?_⟩, by simp [Phase.isOver]⟩
    rw [Motion.phaseAt_of_progress hprogress]

theorem frame_placed :
    (animator.frame now views).1.placed =
      (animator.placeCalls now views).countP PlaceCall.accepted := by
  apply Motion.countP_placed

theorem frame_placed_add_cancelled :
    (animator.frame now views).1.placed +
        (animator.frame now views).1.ended.countP (·.2 = .cancelled) =
      animator.motions.size := by
  have hcancelled : (animator.frame now views).1.ended.countP (·.2 = .cancelled) =
      (animator.brought now views).countP fun entry => ¬ entry.2.phase != .cancelled := by
    rw [frame_ended_eq, List.countP_filterMap]
    apply List.countP_congr
    intro entry _
    unfold Motion.end?
    cases entry.2.phase <;> simp [Phase.isOver]
  rw [hcancelled, ← animator.brought_length now views]
  symm
  apply List.length_eq_countP_add_countP

/--
A frame makes one call for each motion, in the order of the views, and none besides. A motion whose
call is refused is cancelled, one that is accepted at its end is completed, and the others go on.
-/
theorem frame_follows_calls (animator : Animator K T) (now : Instant) (views : V)
    (earlier : List (PlaceCall K)) :
    let report := (animator.frame now views).1
    let after := (animator.frame now views).2.1
    ∃ calls,
      animator.frame now (Recorder.mk views earlier) =
        (report, after, ⟨(animator.frame now views).2.2, earlier ++ calls⟩) ∧
      (calls.map fun call => (call.view, call.bounds)) =
        (animator.motions.toList.map fun (v, motion) => (v, motion.rectAt now)) ∧
      (calls.Pairwise fun a b => compare a.view b.view = .lt) ∧
      report.placed = calls.countP PlaceCall.accepted ∧
      (report.ended.Pairwise fun a b => compare a.1 b.1 = .lt) ∧
      (∀ v phase, (v, phase) ∈ report.ended ↔
        phase = .cancelled ∧ (∃ bounds, ⟨v, bounds, false⟩ ∈ calls) ∨
        phase = .completed ∧ ∃ motion, animator.motion? v = some motion ∧
          1 ≤ motion.progress now ∧ ⟨v, motion.destination, true⟩ ∈ calls) ∧
      (∀ v left, after.motion? v = some left ↔
        ∃ motion, animator.motion? v = some motion ∧ ¬ 1 ≤ motion.progress now ∧
          ⟨v, motion.rectAt now, true⟩ ∈ calls ∧ { motion with phase := .running } = left) ∧
      report.placed + report.ended.countP (·.2 = .cancelled) = animator.motions.size ∧
      after.motions.size + report.ended.length = animator.motions.size := by
  refine ⟨animator.placeCalls now views, animator.frame_recorder now views earlier,
    Motion.placeCalls_map now _ views, animator.placeCalls_ordered now views,
    animator.frame_placed now views, animator.frame_ended_ordered now views,
    animator.mem_frame_ended_iff now views, animator.frame_motion?_eq_some_iff now views,
    animator.frame_placed_add_cancelled now views, animator.frame_size_add_ended now views⟩

end Animator

end ViewMotion
