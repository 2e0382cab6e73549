import ViewMotion.Proofs.Motion.Fate

/-!
This module contains the accounts of an animator: its motions, together with those that are over,
are all the motions that have ever begun.
-/

namespace ViewMotion

variable {K : Type}

namespace MotionEvent

def isBegun : MotionEvent K → Bool
  | .begun _ _ _ => true
  | _ => false

def isEnded : MotionEvent K → Bool
  | .ended _ _ => true
  | _ => false

def endsAs (fate : Fate) : MotionEvent K → Bool
  | .ended _ f => f = fate
  | _ => false

def reported? : MotionEvent K → Option (ViewId × Phase)
  | .ended v (.reported phase) => some (v, phase)
  | _ => none

theorem countP_isEnded (events : List (MotionEvent K)) :
    events.countP isEnded =
      events.countP (endsAs .replaced) + events.countP (endsAs .stopped) +
        events.countP (endsAs .dropped) + (events.filterMap reported?).length := by
  induction events with
  | nil => rfl
  | cons event events ih =>
    cases event with
    | ended v fate =>
      cases fate <;>
        simp [List.countP_cons, List.filterMap_cons, isEnded, endsAs, reported?, ih] <;> omega
    | _ => simp [List.filterMap_cons, isEnded, endsAs, reported?, ih]

def Replaces (events : List (MotionEvent K)) : Prop :=
  ∀ before v after, events = before ++ .ended v .replaced :: after →
    ∃ destination duration later, after = .begun v destination duration :: later

variable {events events' : List (MotionEvent K)}

theorem Replaces.append (h : Replaces events) (h' : Replaces events') :
    Replaces (events ++ events') := by
  intro before v after heq
  rw [List.append_eq_append_iff] at heq
  rcases heq with ⟨between, -, heq⟩ | ⟨between, rfl, heq⟩
  · apply h' between v after heq
  · cases between with
    | nil => apply h' [] v after heq.symm
    | cons event between =>
      rw [List.cons_append, List.cons.injEq] at heq
      rcases heq with ⟨rfl, rfl⟩
      rcases h before v between rfl with ⟨destination, duration, later, rfl⟩
      exact ⟨destination, duration, later ++ events', rfl⟩

theorem replaces_of_not_mem (h : ∀ v, .ended v .replaced ∉ events) : Replaces events := by
  intro before v after heq
  apply absurd _ (h v)
  rw [heq]
  apply List.mem_append_right before List.mem_cons_self

end MotionEvent

namespace Animator

open MotionEvent

variable {T : Type} [Clock T] [Scalar K] (animator : Animator K T)

theorem begun_size {V : Type} [HasBounds V K] (views : V) (v : ViewId) (destination : Rect K)
    (duration : Duration) :
    let result := animator.start views v destination duration
    let answer := animator.begun v destination duration result
    answer.2.motions.size + answer.1.countP isEnded =
      animator.motions.size + answer.1.countP isBegun := by
  unfold begun
  dsimp only
  split
  · rfl
  · next started hstart =>
    rcases start_eq_ok hstart with ⟨-, departure, -, rfl⟩
    dsimp only
    rw [wake_motions, Std.ExtTreeMap.size_insert]
    change (if animator.isMoving v then _ else _) + _ = _
    split <;> rfl

theorem respond_size (request : AnimatorRequest K T) :
    let answer := animator.respond request
    answer.2.motions.size + answer.1.countP isEnded =
      animator.motions.size + answer.1.countP isBegun := by
  cases request with
  | start views v destination duration => apply begun_size
  | startDefault views v destination => apply begun_size
  | stop v =>
    rw [respond_stop]
    unfold stop isMoving
    split
    · next hmoving =>
      have hmem := Std.ExtTreeMap.contains_iff_mem.mp hmoving
      have hpos := List.length_pos_of_mem (Std.ExtTreeMap.mem_keys.mpr hmem)
      rw [Std.ExtTreeMap.length_keys] at hpos
      dsimp only
      rw [rest_motions, Std.ExtTreeMap.size_erase, if_pos hmoving]
      exact Nat.sub_add_cancel hpos
    · rfl
  | stopAll =>
    unfold respond stopAll
    simp [rest_motions, List.countP_map, Function.comp_def, isEnded, isBegun]
  | frame views now =>
    have hsize := animator.frame_size_add_ended now views
    rw [respond_frame]
    simp [List.countP_map, Function.comp_def, isEnded, isBegun, hsize]
  | setDefaults defaults => rfl
  | changeClock change => rfl

theorem events_size (requests : List (AnimatorRequest K T)) :
    (animator.run requests).motions.size + (animator.events requests).countP isEnded =
      animator.motions.size + (animator.events requests).countP isBegun := by
  induction requests generalizing animator with
  | nil => rfl
  | cons request requests ih =>
    have hrequest := animator.respond_size request
    have hrequests := ih (animator.respond request).2
    unfold events
    rw [run_cons]
    simp only [List.countP_append] at hrequest ⊢
    omega

section Begun

variable (v : ViewId) (destination : Rect K) (duration : Duration)
  (result : Except (MotionError K) (Animator K T))

omit [Clock T] [Scalar K] in
theorem begun_events :
    let events := (animator.begun v destination duration result).1
    events = [] ∨ events = [.begun v destination duration] ∨
      events = [.ended v .replaced, .begun v destination duration] := by
  unfold begun
  cases result with
  | error e => exact Or.inl rfl
  | ok started =>
    dsimp only
    split
    · exact Or.inr (Or.inr rfl)
    · exact Or.inr (Or.inl rfl)

omit [Clock T] [Scalar K] in
theorem begun_reported :
    (animator.begun v destination duration result).1.filterMap reported? = [] := by
  rcases animator.begun_events v destination duration result with h | h | h <;> rw [h] <;> rfl

omit [Clock T] [Scalar K] in
theorem begun_replaces : Replaces (animator.begun v destination duration result).1 := by
  have hbegun : Replaces [.begun v destination duration] := replaces_of_not_mem fun w => by simp
  rcases animator.begun_events v destination duration result with h | h | h
  · rw [h]
    exact replaces_of_not_mem fun w => List.not_mem_nil
  · exact h ▸ hbegun
  · rw [h]
    intro before w after heq
    rw [eq_comm, List.append_eq_cons_iff] at heq
    rcases heq with ⟨-, heq⟩ | ⟨between, -, heq⟩
    · injection heq with heq hafter
      injection heq with heq
      exact ⟨destination, duration, [], heq ▸ hafter⟩
    · exact hbegun between w after heq

end Begun

theorem respond_reported (request : AnimatorRequest K T) :
    (animator.respond request).1.filterMap reported? =
      (animator.report? request).toList.flatMap FrameReport.ended := by
  cases request with
  | start views v destination duration => apply begun_reported
  | startDefault views v destination => apply begun_reported
  | stop v =>
    rw [respond_stop]
    cases animator.isMoving v <;> rfl
  | stopAll =>
    change (animator.motions.keys.map (.ended · .dropped)).filterMap reported? = []
    rw [List.filterMap_map]
    apply List.filterMap_none
  | frame views now =>
    change (((animator.frame now views).1.ended.map fun entry =>
      .ended entry.1 (.reported entry.2)).filterMap reported?) = _ ++ []
    rw [List.append_nil, List.filterMap_map]
    apply List.filterMap_some
  | setDefaults defaults => rfl
  | changeClock change => rfl

theorem respond_replaces (request : AnimatorRequest K T) :
    Replaces (animator.respond request).1 := by
  cases request with
  | start views v destination duration => apply begun_replaces
  | startDefault views v destination => apply begun_replaces
  | stop v =>
    rw [respond_stop]
    apply replaces_of_not_mem
    intro w
    cases animator.isMoving v <;> simp
  | stopAll =>
    apply replaces_of_not_mem
    simp [respond]
  | frame views now =>
    apply replaces_of_not_mem
    simp [respond_frame]
  | setDefaults defaults => exact replaces_of_not_mem fun v => List.not_mem_nil
  | changeClock change => exact replaces_of_not_mem fun v => List.not_mem_nil

theorem events_replaces (requests : List (AnimatorRequest K T)) :
    Replaces (animator.events requests) := by
  induction requests generalizing animator with
  | nil => exact replaces_of_not_mem fun v => List.not_mem_nil
  | cons request requests ih => exact (animator.respond_replaces request).append (ih _)

theorem events_reported (requests : List (AnimatorRequest K T)) :
    (animator.events requests).filterMap reported? =
      (animator.reports requests).flatMap FrameReport.ended := by
  induction requests generalizing animator with
  | nil => rfl
  | cons request requests ih =>
    unfold events reports
    rw [List.filterMap_append, List.flatMap_append, respond_reported, ih]

theorem reports_phase {requests : List (AnimatorRequest K T)} {report : FrameReport}
    (h : report ∈ animator.reports requests) {entry : ViewId × Phase}
    (hentry : entry ∈ report.ended) : entry.2 = .completed ∨ entry.2 = .cancelled := by
  induction requests generalizing animator with
  | nil => contradiction
  | cons request requests ih =>
    unfold reports at h
    cases List.mem_append.mp h with
    | inl hmem =>
      cases request with
      | frame views now =>
        rw [Option.mem_toList] at hmem
        injection hmem with heq
        have hover := animator.frame_ended_isOver now views entry (heq ▸ hentry)
        cases hphase : entry.2 with
        | completed => exact Or.inl rfl
        | cancelled => exact Or.inr rfl
        | _ =>
          rw [hphase] at hover
          contradiction
      | _ => contradiction
    | inr hmem => apply ih _ hmem

/--
The accounts of an animator that has had no motion before the requests. The fate of a motion that
has begun is looked for in the events after its beginning.
-/
structure Accounted (animator : Animator K T) (requests : List (AnimatorRequest K T)) : Prop where
  begun (before : List (MotionEvent K)) (v : ViewId) (destination : Rect K) (duration : Duration)
    (after : List (MotionEvent K)) :
    animator.events requests = before ++ .begun v destination duration :: after →
      fates v after = [] ∧ ¬ after.any (begins v) ∧
          (∃ motion, (animator.run requests).motion? v = some motion ∧
            motion.destination = destination ∧ motion.duration = duration ∧
            motion.phase = phaseAfter after) ∨
        (∃ fate, fates v after = [fate]) ∧
          ((animator.run requests).isMoving v → after.any (begins v))
  ended (before : List (MotionEvent K)) (v : ViewId) (fate : Fate)
    (after : List (MotionEvent K)) :
    animator.events requests = before ++ .ended v fate :: after →
      ∃ earlier destination duration between,
        before = earlier ++ .begun v destination duration :: between ∧
        ¬ between.any (begins v) ∧ fates v between = []
  moving (v : ViewId) (motion : Motion K) :
    (animator.run requests).motion? v = some motion →
      ∃ before after,
        animator.events requests =
            before ++ .begun v motion.destination motion.duration :: after ∧
          ¬ after.any (begins v) ∧ fates v after = [] ∧ motion.phase = phaseAfter after
  replaced : Replaces (animator.events requests)
  reported :
    (animator.events requests).filterMap reported? =
      (animator.reports requests).flatMap FrameReport.ended
  reported_phase (report : FrameReport) (entry : ViewId × Phase) :
    report ∈ animator.reports requests → entry ∈ report.ended →
      entry.2 = .completed ∨ entry.2 = .cancelled
  count_begun :
    (animator.events requests).countP isBegun =
      (animator.run requests).motions.size +
        (animator.events requests).countP (endsAs .replaced) +
        (animator.events requests).countP (endsAs .stopped) +
        (animator.events requests).countP (endsAs .dropped) +
        ((animator.reports requests).flatMap FrameReport.ended).length

theorem idle_accounted (clock : T) (defaults : MotionDefaults)
    (requests : List (AnimatorRequest K T)) : (idle clock defaults).Accounted requests := by
  have hpassage (v : ViewId) :
      Passage v none ((idle clock defaults).events requests)
        (((idle clock defaults).run requests).motion? v) := by
    have hpassage := (idle clock defaults).events_passage requests v
    have hidle : (idle clock defaults : Animator K T).motion? v = none := by
      unfold motion? idle
      simp
    rw [hidle] at hpassage
    exact hpassage
  constructor
  case begun =>
    intro before v destination duration after hsplit
    have hmoving := hpassage v
    rw [hsplit] at hmoving
    rcases hmoving.split_begun with ⟨motion, rfl, rfl, hphase, hafter⟩
    rw [isMoving_eq_isSome]
    cases hafter.of_moving with
    | inl hunder =>
      refine Or.inl ⟨hunder.1, hunder.2.1, _, hunder.2.2, ?_⟩
      unfold phaseAfter
      split
      · exact ⟨rfl, rfl, rfl⟩
      · exact ⟨rfl, rfl, hphase⟩
    | inr hover => exact Or.inr hover
  case ended =>
    intro before v fate after hsplit
    have hmoving := hpassage v
    rw [hsplit] at hmoving
    rcases hmoving.split_ended with ⟨motion, hbefore⟩
    rcases hbefore.last_begun with ⟨earlier, between, heq, hlast, hfates, -⟩
    exact ⟨earlier, motion.destination, motion.duration, between, heq, hlast, hfates⟩
  case moving =>
    intro v motion hmotion
    have hmoving := hpassage v
    rw [hmotion] at hmoving
    exact hmoving.last_begun
  case replaced => apply events_replaces
  case reported => apply events_reported
  case reported_phase => exact fun report entry hreport => reports_phase _ hreport
  case count_begun =>
    have hsize := (idle clock defaults).events_size requests
    rw [countP_isEnded, events_reported] at hsize
    have hempty : (idle clock defaults : Animator K T).motions.size = 0 := by
      unfold idle
      simp
    omega

end Animator

end ViewMotion
