import ViewMotion.Proofs.Motion.History

/-!
This module contains the fate of the motions that have begun. A motion is in the animator until its
fate has come, and each has one fate only.
-/

namespace ViewMotion

variable {K : Type}

namespace MotionEvent

def Concerns (v : ViewId) : MotionEvent K → Prop
  | .begun w _ _ | .ended w _ => w = v
  | .frame => True

/--
What an event means for the motion of `v`, if there is one. A motion begins where there is none, and
it is over only where there is one.
-/
inductive Effect (v : ViewId) : Option (Motion K) → MotionEvent K → Option (Motion K) → Prop where
  | begun {motion : Motion K} {destination : Rect K} {duration : Duration}
    (hdestination : motion.destination = destination) (hduration : motion.duration = duration)
    (hphase : motion.phase = .pending) :
    Effect v none (.begun v destination duration) (some motion)
  | ended {motion : Motion K} {fate : Fate} : Effect v (some motion) (.ended v fate) none
  | frame {motion? : Option (Motion K)} :
    Effect v motion? .frame (motion?.map fun motion => { motion with phase := .running })
  | other {motion? : Option (Motion K)} {event : MotionEvent K} (h : ¬ event.Concerns v) :
    Effect v motion? event motion?

inductive Passage (v : ViewId) :
    Option (Motion K) → List (MotionEvent K) → Option (Motion K) → Prop where
  | done {motion? : Option (Motion K)} : Passage v motion? [] motion?
  | next {first middle last : Option (Motion K)} {event : MotionEvent K}
    {events : List (MotionEvent K)} (heffect : Effect v first event middle)
    (h : Passage v middle events last) : Passage v first (event :: events) last

namespace Passage

variable {v : ViewId} {first middle last : Option (Motion K)}
  {events before after : List (MotionEvent K)}

theorem append (h : Passage v first before middle) (h' : Passage v middle after last) :
    Passage v first (before ++ after) last := by
  induction h with
  | done => exact h'
  | next heffect _ ih => exact .next heffect (ih h')

theorem split (h : Passage v first (before ++ after) last) :
    ∃ middle, Passage v first before middle ∧ Passage v middle after last := by
  induction before generalizing first with
  | nil => exact ⟨first, .done, h⟩
  | cons event before ih =>
    cases h with
    | next heffect h =>
      rcases ih h with ⟨middle, hbefore, hafter⟩
      exact ⟨middle, .next heffect hbefore, hafter⟩

theorem split_begun {destination : Rect K} {duration : Duration}
    (h : Passage v first (before ++ .begun v destination duration :: after) last) :
    ∃ motion, motion.destination = destination ∧ motion.duration = duration ∧
      motion.phase = .pending ∧ Passage v (some motion) after last := by
  rcases h.split with ⟨middle, -, hafter⟩
  cases hafter with
  | next heffect h =>
    cases heffect with
    | begun hdestination hduration hphase => exact ⟨_, hdestination, hduration, hphase, h⟩
    | other hother => exact absurd rfl hother

theorem split_ended {fate : Fate} (h : Passage v first (before ++ .ended v fate :: after) last) :
    ∃ motion, Passage v first before (some motion) := by
  rcases h.split with ⟨middle, hbefore, hafter⟩
  cases hafter with
  | next heffect h =>
    cases heffect with
    | ended => exact ⟨_, hbefore⟩
    | other hother => exact absurd rfl hother

theorem of_others (h : ∀ event ∈ events, ¬ event.Concerns v) : Passage v first events first := by
  induction events with
  | nil => exact .done
  | cons event events ih =>
    apply Passage.next (.other (h event List.mem_cons_self))
    apply ih fun e he => h e (List.mem_cons_of_mem event he)

theorem of_ends {α : Type} {ends : List α} (view : α → ViewId) (fate : α → Fate)
    (hnodup : (ends.map view).Nodup) (hover : v ∈ ends.map view → first.isSome ∧ last = none)
    (hleft : v ∉ ends.map view → last = first) :
    Passage v first (ends.map fun entry => .ended (view entry) (fate entry)) last := by
  induction ends with
  | nil => exact hleft List.not_mem_nil ▸ .done
  | cons entry ends ih =>
    rw [List.map_cons, List.nodup_cons] at hnodup
    rw [List.map_cons]
    by_cases heq : view entry = v
    · rw [heq] at hnodup
      rcases hover (heq ▸ List.mem_cons_self) with ⟨hfirst, rfl⟩
      rcases Option.isSome_iff_exists.mp hfirst with ⟨motion, rfl⟩
      rw [heq]
      apply Passage.next .ended
      -- no other end is one of this view
      apply of_others
      intro event hevent hconcerns
      rcases List.mem_map.mp hevent with ⟨other, hother, rfl⟩
      have hother : view other ∈ ends.map view := List.mem_map_of_mem hother
      have hconcerns : view other = v := hconcerns
      rw [hconcerns] at hother
      exact hnodup.1 hother
    · have hother : ¬ Concerns v (.ended (view entry) (fate entry) : MotionEvent K) := heq
      apply Passage.next (.other hother)
      apply ih hnodup.2
      · exact fun hmem => hover (List.mem_cons_of_mem _ hmem)
      · exact fun hmem => hleft (List.not_mem_cons_of_ne_of_not_mem (Ne.symm heq) hmem)

end Passage

section Fates

variable (v : ViewId)

def begins : MotionEvent K → Bool
  | .begun w _ _ => w = v
  | _ => false

def isFrame : MotionEvent K → Bool
  | .frame => true
  | _ => false

def fate? : MotionEvent K → Option Fate
  | .ended w fate => if w = v then some fate else none
  | _ => none

/--
The fates of the motion of `v` that is under way before the events.
-/
def fates (events : List (MotionEvent K)) : List Fate :=
  (events.takeWhile fun event => !event.begins v).filterMap (fate? v)

variable {v} {event : MotionEvent K} {events : List (MotionEvent K)}

theorem begins_begun {destination : Rect K} {duration : Duration} :
    (begun v destination duration).begins v := decide_eq_true rfl

theorem fates_begun (h : event.begins v) : fates v (event :: events) = [] := by
  unfold fates
  rw [List.takeWhile_cons_of_neg (by simpa using h)]
  rfl

theorem fates_cons (h : event.begins v = false) :
    fates v (event :: events) = (event.fate? v).toList ++ fates v events := by
  unfold fates
  rw [List.takeWhile_cons_of_pos (by simpa using h), List.filterMap_cons]
  cases event.fate? v <;> rfl

theorem fates_ended {fate : Fate} :
    fates v (.ended v fate :: events : List (MotionEvent K)) = fate :: fates v events := by
  rw [fates_cons rfl]
  simp [fate?]

theorem fates_frame : fates v (.frame :: events) = fates v events := by
  rw [fates_cons rfl]
  rfl

theorem begins_of_not_concerns (h : ¬ event.Concerns v) : event.begins v = false := by
  cases event with
  | begun w => exact decide_eq_false h
  | _ => rfl

theorem isFrame_of_not_concerns (h : ¬ event.Concerns v) : event.isFrame = false := by
  cases event with
  | frame => exact absurd trivial h
  | _ => rfl

theorem fates_other (h : ¬ event.Concerns v) : fates v (event :: events) = fates v events := by
  rw [fates_cons (begins_of_not_concerns h)]
  cases event with
  | ended w fate =>
    have hne : ¬ w = v := h
    simp [fate?, hne]
  | _ => rfl

end Fates

/--
The phase of a motion that has begun before the events, and which is not over.
-/
def phaseAfter (events : List (MotionEvent K)) : Phase :=
  if events.any isFrame then .running else .pending

namespace Passage

variable {v : ViewId} {events : List (MotionEvent K)} {motion : Motion K}
  {last : Option (Motion K)}

theorem of_idle (h : Passage v none events last) :
    fates v events = [] ∧ (last.isSome → events.any (begins v)) := by
  induction events with
  | nil =>
    cases h with
    | done => exact ⟨rfl, fun h => absurd h Bool.false_ne_true⟩
  | cons event events ih =>
    rw [List.any_cons, Bool.or_eq_true]
    cases h with
    | next heffect h =>
      cases heffect with
      | begun => exact ⟨fates_begun begins_begun, fun _ => Or.inl begins_begun⟩
      | frame =>
        rw [fates_frame]
        exact ⟨(ih h).1, fun hlast => Or.inr ((ih h).2 hlast)⟩
      | other hother =>
        rw [fates_other hother]
        exact ⟨(ih h).1, fun hlast => Or.inr ((ih h).2 hlast)⟩

-- a motion is over at its first end: what comes after that is about another motion, if anything
theorem of_moving (h : Passage v (some motion) events last) :
    fates v events = [] ∧ ¬ events.any (begins v) ∧
        last = some (if events.any isFrame then { motion with phase := .running } else motion) ∨
      (∃ fate, fates v events = [fate]) ∧ (last.isSome → events.any (begins v)) := by
  induction events generalizing motion with
  | nil =>
    cases h with
    | done => exact Or.inl ⟨rfl, Bool.false_ne_true, rfl⟩
  | cons event events ih =>
    rw [List.any_cons, List.any_cons]
    cases h with
    | next heffect h =>
      cases heffect with
      | ended =>
        rw [fates_ended, h.of_idle.1]
        exact Or.inr ⟨⟨_, rfl⟩, h.of_idle.2⟩
      | frame =>
        rw [fates_frame]
        simpa [isFrame, begins] using ih h
      | other hother =>
        rw [fates_other hother, begins_of_not_concerns hother, isFrame_of_not_concerns hother]
        exact ih h

theorem last_begun (h : Passage v none events (some motion)) :
    ∃ before after, events = before ++ .begun v motion.destination motion.duration :: after ∧
      ¬ after.any (begins v) ∧ fates v after = [] ∧ motion.phase = phaseAfter after := by
  -- the last beginning is the first one from the end
  have hany : events.reverse.any (begins v) := by
    rw [List.any_reverse]
    exact h.of_idle.2 rfl
  rw [List.any_eq_true, ← List.find?_isSome, Option.isSome_iff_exists] at hany
  rcases hany with ⟨event, hfind⟩
  rw [List.find?_eq_some_iff_append] at hfind
  rcases hfind with ⟨hbegins, after, before, hsplit, hlast⟩
  cases event with
  | begun w destination duration =>
    obtain rfl : w = v := of_decide_eq_true hbegins
    have heq : events = before.reverse ++ .begun w destination duration :: after.reverse := by
      rw [← List.reverse_reverse events, hsplit]
      simp
    have hlast : ¬ after.reverse.any (begins w) := by simpa using hlast
    rw [heq] at h
    rcases h.split_begun with ⟨start, rfl, rfl, hphase, hmoving⟩
    cases hmoving.of_moving with
    | inl hunder =>
      injection hunder.2.2 with hmotion
      refine ⟨before.reverse, after.reverse, ?_, hlast, hunder.1, ?_⟩
      · rw [heq, hmotion]
        split <;> rfl
      · unfold phaseAfter
        rw [hmotion]
        split
        · rfl
        · exact hphase
    | inr hover => exact absurd (hover.2 rfl) hlast
  | _ => contradiction

end Passage

end MotionEvent

namespace Animator

variable {T : Type} [Clock T]

open MotionEvent

section Steps

variable (animator : Animator K T) (v : ViewId)

theorem stop_passage (w : ViewId) :
    let answer := animator.stop w
    Passage v (animator.motion? v) (if answer.1 then [.ended w .stopped] else [])
      (answer.2.motion? v) := by
  dsimp only
  rw [stop_fst, stop_motion?, isMoving_eq_isSome]
  by_cases heq : w = v
  · subst heq
    rw [if_pos rfl]
    cases animator.motion? w with
    | none => exact .done
    | some motion => exact .next .ended .done
  · rw [if_neg heq]
    split
    · exact .next (.other heq) .done
    · exact .done

theorem stopAll_passage :
    Passage v (animator.motion? v) (animator.motions.keys.map (.ended · .dropped))
      (animator.stopAll.motion? v) := by
  have hafter : animator.stopAll.motion? v = none := by
    unfold motion? stopAll
    rw [rest_motions]
    simp
  have hbefore : v ∈ animator.motions.keys ↔ (animator.motion? v).isSome := by
    unfold motion?
    rw [Std.ExtTreeMap.mem_keys, Std.ExtTreeMap.mem_iff_isSome_getElem?]
  rw [hafter]
  apply Passage.of_ends id
  · rw [List.map_id]
    apply Std.ExtTreeMap.nodup_keys
  · rw [List.map_id, hbefore]
    exact fun hmem => ⟨hmem, rfl⟩
  · rw [List.map_id, hbefore, Option.not_isSome_iff_eq_none]
    exact Eq.symm

variable [Scalar K] {V : Type} [HasBounds V K] (views : V)

theorem begun_passage (w : ViewId) (destination : Rect K) (duration : Duration) :
    let result := animator.start views w destination duration
    let answer := animator.begun w destination duration result
    Passage v (animator.motion? v) answer.1 (answer.2.motion? v) := by
  unfold begun
  dsimp only
  split
  · exact .done
  · next started hstart =>
    rcases start_motion? hstart v with ⟨departure, -, hmotion⟩
    dsimp only
    rw [hmotion]
    by_cases heq : w = v
    · subst heq
      rw [if_pos rfl, isMoving_eq_isSome]
      cases animator.motion? w with
      | none => exact .next (.begun rfl rfl rfl) .done
      | some motion => exact .next .ended (.next (.begun rfl rfl rfl) .done)
    · rw [if_neg heq]
      split
      · exact .next (.other heq) (.next (.other heq) .done)
      · exact .next (.other heq) .done

theorem frame_passage (now : Instant) :
    let answer := animator.respond (.frame views now)
    Passage v (animator.motion? v) answer.1 (answer.2.motion? v) := by
  have hnodup : ((animator.frame now views).1.ended.map Prod.fst).Nodup := by
    apply List.pairwise_map.mpr
    apply (animator.frame_ended_ordered now views).imp
    intro a b hlt heq
    rw [heq, Std.LawfulEqOrd.compare_eq_iff_eq.mpr rfl] at hlt
    contradiction
  have hmem : v ∈ (animator.frame now views).1.ended.map Prod.fst ↔
      (animator.frame now views).1.endings v ≠ [] := by
    unfold FrameReport.endings
    simp
  have houtcome := animator.frame_outcome now views v
  apply Passage.next .frame
  change Passage v _ _ ((animator.frame now views).2.1.motion? v)
  apply Passage.of_ends Prod.fst _ hnodup
  · rw [hmem]
    intro hv
    cases hmotion : animator.motion? v with
    | none =>
      rw [hmotion] at houtcome
      exact absurd houtcome.1 hv
    | some motion =>
      rw [hmotion] at houtcome
      rcases houtcome with hleft | hover
      · exact absurd hleft.1 hv
      · exact ⟨rfl, hover.2⟩
  · rw [hmem, not_not]
    intro hv
    cases hmotion : animator.motion? v with
    | none =>
      rw [hmotion] at houtcome
      exact houtcome.2
    | some motion =>
      rw [hmotion] at houtcome
      rcases houtcome with hleft | ⟨⟨phase, hphase⟩, -⟩
      · exact hleft.2
      · rw [hv] at hphase
        contradiction

end Steps

variable [Scalar K] (animator : Animator K T)

theorem respond_passage (request : AnimatorRequest K T) (v : ViewId) :
    let answer := animator.respond request
    Passage v (animator.motion? v) answer.1 (answer.2.motion? v) := by
  cases request with
  | start views w destination duration => apply begun_passage
  | startDefault views w destination => apply begun_passage
  | stop w => apply stop_passage
  | stopAll => apply stopAll_passage
  | frame views now => apply frame_passage
  | setDefaults defaults => exact .done
  | changeClock change => exact .done

theorem events_passage (requests : List (AnimatorRequest K T)) (v : ViewId) :
    Passage v (animator.motion? v) (animator.events requests)
      ((animator.run requests).motion? v) := by
  induction requests generalizing animator with
  | nil => exact .done
  | cons request requests ih => exact (animator.respond_passage request v).append (ih _)

end Animator

end ViewMotion
