import ViewMotion.Proofs.ExactScalar
import ViewMotion.Proofs.Motion.Frame
import ViewMotion.Proofs.Motion.Subscription

/-!
This module contains the independence of motions from the number of frames: where the views are, and
what has become of the motions, depends on the time of the last frame only.
-/

namespace ViewMotion

variable {K T : Type} [Scalar K]

theorem filterMap_append_perm {α β : Type} {f g h : α → Option β}
    (hsplit : ∀ x, f x = h x ∧ g x = none ∨ f x = none ∧ g x = h x) (xs : List α) :
    (xs.filterMap f ++ xs.filterMap g).Perm (xs.filterMap h) := by
  induction xs with
  | nil => rfl
  | cons x xs ih =>
    cases hsplit x with
    | inl hx =>
      rw [List.filterMap_cons_none hx.2, List.filterMap_cons, List.filterMap_cons, hx.1]
      cases h x with
      | none => exact ih
      | some y => apply ih.cons y
    | inr hx =>
      rw [List.filterMap_cons_none hx.1, List.filterMap_cons, List.filterMap_cons, hx.2]
      cases h x with
      | none => exact ih
      | some y => apply List.perm_middle.trans (ih.cons y)

namespace Animator

theorem frame_frame_damaged [Clock T] (animator : Animator K T) (t now : Instant)
    (tree : ViewTree K) :
    ((animator.frame t tree).2.1.frame now (animator.frame t tree).2.2).2.2.damaged =
      (animator.frame now tree).2.2.damaged := by
  apply Std.ExtTreeSet.ext_mem
  intro w
  simp only [frame_mem_damaged, frame_bounds?_isSome, frame_superview?]
  rw [or_assoc]
  apply or_congr_right
  rw [or_iff_left_iff_imp]
  intro ⟨v, hv, hplaced⟩
  refine ⟨v, ?_, hplaced⟩
  rw [isMoving_eq_isSome, frame_motion?, Option.isSome_bind, Option.any_eq_true] at hv
  rcases hv with ⟨motion, hmotion, -⟩
  rw [isMoving_eq_isSome, hmotion]
  rfl

end Animator

section Once

variable (hdone : ∀ (motion : Motion K) (t now : Instant), t ≤ now → motion.isDone t →
  motion.isDone now) {t now : Instant} (hle : t ≤ now)

include hdone hle

-- a motion that is over by `t` ends in the same way at `now`, and any other is still running
theorem Motion.early_frame_cases (tree : ViewTree K) (v : ViewId) (motion : Motion K) :
    (motion.left? t tree v = none ∧ motion.left? now tree v = none ∧
        motion.ending? t tree v = motion.ending? now tree v ∧
        (tree.bounds? v).map (fun _ => motion.rectAt t) =
          (tree.bounds? v).map fun _ => motion.rectAt now) ∨
      (motion.left? t tree v = some { motion with phase := .running } ∧
        motion.ending? t tree v = none) := by
  unfold left? ending? phaseAt rectAt
  cases tree.bounds? v with
  | none => apply Or.inl ⟨rfl, rfl, rfl, rfl⟩
  | some bounds =>
    by_cases ht : motion.isDone t
    · apply Or.inl
      simp [ht, hdone motion t now hle ht, Phase.isOver]
    · apply Or.inr
      simp [ht, Phase.isOver]

namespace Animator

variable [Clock T] (animator : Animator K T) (tree : ViewTree K)

theorem filterMap_left?_left? :
    (animator.motions.filterMap (Motion.left? t tree)).filterMap
        (Motion.left? now (animator.frame t tree).2.2) =
      animator.motions.filterMap (Motion.left? now tree) := by
  apply Std.ExtTreeMap.ext_getElem?
  intro v
  rw [Std.ExtTreeMap.getElem?_filterMap', Std.ExtTreeMap.getElem?_filterMap',
    Std.ExtTreeMap.getElem?_filterMap', Option.bind_assoc]
  apply congrArg animator.motions[v]?.bind
  funext motion
  cases motion.early_frame_cases hdone hle tree v with
  | inl h =>
    rw [h.1, h.2.1]
    rfl
  | inr h =>
    rw [h.1]
    apply Motion.left?_congr
    apply frame_bounds?_isSome

theorem frame_frame_bounds? (v : ViewId) :
    ((animator.frame t tree).2.1.frame now (animator.frame t tree).2.2).2.2.bounds? v =
      (animator.frame now tree).2.2.bounds? v := by
  rw [frame_bounds?, frame_bounds?, frame_bounds?, frame_motion?]
  cases animator.motion? v with
  | none => rfl
  | some motion =>
    rw [Option.bind_some]
    cases motion.early_frame_cases hdone hle tree v with
    | inl h =>
      rw [h.1]
      apply h.2.2.2
    | inr h =>
      rw [h.1]
      dsimp only
      rw [Option.map_map]
      rfl

theorem frame_frame_tree :
    let twice := (animator.frame t tree).2.1.frame now (animator.frame t tree).2.2
    twice.2.2 = { (animator.frame now tree).2.2 with unarranged := twice.2.2.unarranged } := by
  have keeps {β : Type} (part : ViewTree K → β)
      (hplace : ∀ tree v bounds, part (tree.place v bounds).2 = part tree) :
      part ((animator.frame t tree).2.1.frame now (animator.frame t tree).2.2).2.2 =
        part (animator.frame now tree).2.2 := by
    rw [frame_keeps _ _ _ part hplace, frame_keeps _ _ _ part hplace,
      frame_keeps _ _ _ part hplace]
  rw [ViewTree.mk.injEq]
  refine ⟨?_, ?_, ?_, ?_, ?_, ?_, ?_, rfl⟩
  · apply keeps ViewTree.root ViewTree.place_root
  · apply keeps ViewTree.kinds ViewTree.place_kinds
  · apply Std.ExtTreeMap.ext_getElem?
    intro v
    apply frame_frame_bounds? hdone hle animator tree v
  · apply keeps ViewTree.superviews ViewTree.place_superviews
  · apply keeps ViewTree.subviewLists ViewTree.place_subviewLists
  · apply keeps ViewTree.groups ViewTree.place_groups
  · apply frame_frame_damaged animator t now tree

theorem frame_frame_animator [LawfulClock T] :
    ((animator.frame t tree).2.1.frame now (animator.frame t tree).2.2).2.1 =
      (animator.frame now tree).2.1 := by
  have hmotions := filterMap_left?_left? hdone hle animator tree
  rw [frame_animator, frame_animator, frame_animator, rest_motions]
  dsimp only
  rw [hmotions]
  apply rest_rest
  intro hempty
  rw [← hmotions, Std.ExtTreeMap.isEmpty_iff.mp hempty]
  rfl

theorem frame_frame_ended :
    ((animator.frame t tree).1.ended ++
      ((animator.frame t tree).2.1.frame now (animator.frame t tree).2.2).1.ended).Perm
        (animator.frame now tree).1.ended := by
  rw [frame_ended, frame_ended, frame_ended, frame_animator, rest_motions,
    Std.ExtTreeMap.toList_filterMap, List.filterMap_filterMap]
  apply filterMap_append_perm
  intro entry
  cases entry.2.early_frame_cases hdone hle tree entry.1 with
  | inl h =>
    apply Or.inl
    rw [h.1, h.2.2.1]
    exact ⟨rfl, rfl⟩
  | inr h =>
    apply Or.inr
    rw [h.1, h.2]
    refine ⟨rfl, ?_⟩
    apply congrArg (Option.map _)
    apply Motion.ending?_congr
    apply frame_bounds?_isSome

end Animator

end Once

namespace Animator

def frames [Clock T] (animator : Animator K T) :
    List Instant → ViewTree K → List (ViewId × Phase) × Animator K T × ViewTree K
  | [], tree => ([], animator, tree)
  | t :: times, tree =>
    let (report, animator, tree) := animator.frame t tree
    let (ended, animator, tree) := animator.frames times tree
    (report.ended ++ ended, animator, tree)

theorem frame_running [Clock T] {animator : Animator K T} {now : Instant} {tree : ViewTree K}
    {v : ViewId} {motion : Motion K} (h : (animator.frame now tree).2.1.motion? v = some motion) :
    motion.phase = .running := by
  rw [frame_motion?, Option.bind_eq_some_iff] at h
  rcases h with ⟨old, -, hleft⟩
  rw [Motion.left?_eq_some_iff] at hleft
  rw [← hleft.2.2]

section Many

variable [Clock T] [LawfulClock T]
  (hdone : ∀ (motion : Motion K) (t now : Instant), t ≤ now → motion.isDone t → motion.isDone now)

include hdone

theorem frames_agree {times : List Instant} {now : Instant} (hsorted : times.Pairwise (· ≤ ·))
    (hlast : times.getLast? = some now) (animator : Animator K T) (tree : ViewTree K) :
    (animator.frames times tree).1.Perm (animator.frame now tree).1.ended ∧
      (animator.frames times tree).2.1 = (animator.frame now tree).2.1 ∧
      (animator.frames times tree).2.2 =
        { (animator.frame now tree).2.2 with
          unarranged := (animator.frames times tree).2.2.unarranged } := by
  induction times generalizing animator tree with
  | nil => contradiction
  | cons t times ih =>
    cases times with
    | nil =>
      injection hlast with hlast
      subst hlast
      unfold frames
      simp [frames]
    | cons t' times =>
      rw [List.getLast?_cons_cons] at hlast
      have hle : t ≤ now := (List.pairwise_cons.mp hsorted).1 now (List.mem_of_getLast? hlast)
      have hrest := ih (List.pairwise_cons.mp hsorted).2 hlast (animator.frame t tree).2.1
        (animator.frame t tree).2.2
      have htree := frame_frame_tree hdone hle animator tree
      unfold frames
      refine ⟨?_, ?_, ?_⟩
      · apply (hrest.1.append_left _).trans
        apply frame_frame_ended hdone hle animator tree
      · dsimp only
        rw [hrest.2.1]
        apply frame_frame_animator hdone hle animator tree
      · dsimp only at htree ⊢
        rw [hrest.2.2, htree]

theorem frames_eq_frame {times : List Instant} {now : Instant} (hsorted : times.Pairwise (· ≤ ·))
    (hlast : times.getLast? = some now) (animator : Animator K T) (tree : ViewTree K) :
    let run := animator.frames times tree
    let once := animator.frame now tree
    let again := once.2.1.frame now once.2.2
    (run.1.Perm once.1.ended ∧ run.2.1 = once.2.1 ∧
        run.2.2 = { once.2.2 with unarranged := run.2.2.unarranged }) ∧
      (∀ v motion, once.2.1.motion? v = some motion → motion.phase = .running) ∧
      again.1.ended = [] ∧ again.2.1 = once.2.1 ∧
      again.2.2 = { once.2.2 with unarranged := again.2.2.unarranged } := by
  have hle : now ≤ now := Int.le_refl _
  refine ⟨frames_agree hdone hsorted hlast animator tree, fun _ _ => frame_running, ?_, ?_, ?_⟩
  · have hended := (frame_frame_ended hdone hle animator tree).length_eq
    rw [List.length_append] at hended
    apply List.eq_nil_of_length_eq_zero
    omega
  · apply frame_frame_animator hdone hle animator tree
  · apply frame_frame_tree hdone hle animator tree

end Many

theorem frames_of_single_motion :
    let motion : Motion Rat := {
      view := ⟨0⟩
      departure := .zero
      destination := .ofXYWH 1 2 3 4
      began := .epoch
      duration := ⟨5⟩
      easing := .linear
      phase := .pending
    }
    let animator : Animator Rat ManualClock := {
      clock := ManualClock.atEpoch.subscribe
      defaults := {}
      motions := Std.ExtTreeMap.ofList [((⟨0⟩ : ViewId), motion)]
    }
    let tree : ViewTree Rat := .ofRoot ⟨0⟩
    (animator.frames [⟨3⟩, ⟨6⟩, ⟨8⟩] tree).1 = [(⟨0⟩, .completed)] ∧
      (animator.frames [⟨3⟩, ⟨6⟩, ⟨8⟩] tree).2.1 = (animator.frame ⟨8⟩ tree).2.1 := by
  intro motion animator tree
  have hsorted : [(⟨3⟩ : Instant), ⟨6⟩, ⟨8⟩].Pairwise (· ≤ ·) := by decide
  have hagree := frames_eq_frame (fun motion _ _ hle => motion.isDone_rat_mono hle) hsorted rfl
    animator tree
  have hended : (animator.frame ⟨8⟩ tree).1.ended = [(⟨0⟩, .completed)] := by decide +kernel
  refine ⟨?_, hagree.1.2.1⟩
  rw [← List.perm_singleton, ← hended]
  apply hagree.1.1

end Animator

end ViewMotion
