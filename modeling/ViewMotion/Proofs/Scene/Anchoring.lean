import ViewMotion.Proofs.Motion.Calls
import ViewMotion.Proofs.Scene.Clearing
import ViewMotion.Proofs.Scene.Landing

/-!
This module contains scenes in which nothing dangles: what moves and what is listened to is in the
tree. Careful requests keep it that way.
-/

namespace ViewMotion

variable {K T A X : Type}

/--
The tree is not to take views out by itself, since it does not know what is kept for them, and
nobody is to listen to a view that is not there.
-/
def SceneRequest.Careful (scene : Scene K T A X) : SceneRequest K T A X → Prop
  | .onTree (.remove _) | .onTree (.clear _) => False
  | .setOthers handlers _ _ _ => ∀ v kind handler, handlers.find? v kind = some handler →
      scene.handlers.find? v kind = some handler ∨ v ∈ scene.tree.kinds
  | _ => True

namespace NamedTree

variable [Scalar K] {state : NamedTree K} {v : ViewId}

theorem mem_perform {request : TreeRequest K} (hremove : ∀ w, request ≠ .remove w)
    (hclear : ∀ w, request ≠ .clear w) (hv : v ∈ state.tree.kinds) :
    v ∈ (state.perform request).tree.kinds := by
  cases request with
  | insert parent kind =>
    unfold perform
    dsimp only
    split
    · next tree hinsert =>
      rw [ViewTree.insert_eq_ok_iff] at hinsert
      rw [hinsert.2, ViewTree.attach_mem_kinds]
      apply Or.inr hv
    · exact hv
  | remove w => exact absurd rfl (hremove w)
  | clear w => exact absurd rfl (hclear w)
  | place w bounds =>
    unfold perform
    rw [ViewTree.place_kinds]
    exact hv
  | modifyKind w change =>
    unfold perform
    dsimp only
    cases hmodify : state.tree.modifyKind? w change with
    | none => exact hv
    | some tree =>
      obtain ⟨-, hshape, -⟩ := ViewTree.modifyKind?_effect hmodify
      exact (hshape.mem_kinds v).mpr hv
  | setGroup w group =>
    unfold perform
    dsimp only
    split
    · next tree hset =>
      rw [ViewTree.setGroup_eq_ok_iff] at hset
      rw [hset.2]
      exact hv
    · exact hv
  | takeDamaged => exact hv
  | takeUnarranged => exact hv
  | takeName => exact hv

end NamedTree

namespace Scene

structure Anchored (scene : Scene K T A X) : Prop where
  sound : scene.named.Sound
  mem_of_motion {v : ViewId} {motion : Motion K} :
    scene.animator.motion? v = some motion → motion.view = v ∧ v ∈ scene.tree.kinds
  mem_of_handler {v : ViewId} {kind : EventKind} {handler : Handler A} :
    scene.handlers.find? v kind = some handler → v ∈ scene.tree.kinds

variable {scene after : Scene K T A X}

theorem Anchored.without {gone : List ViewId} (h : scene.Anchored)
    (hwithout : Without gone scene after) : after.Anchored where
  sound := hwithout.sound
  mem_of_motion {v motion} hmotion := by
    rw [hwithout.motion?_eq] at hmotion
    rw [hwithout.mem_kinds]
    split at hmotion
    · contradiction
    · next hleft =>
      obtain ⟨hview, hmem⟩ := h.mem_of_motion hmotion
      exact ⟨hview, hleft, hmem⟩
  mem_of_handler {v kind handler} hfind := by
    rw [hwithout.find?_eq] at hfind
    rw [hwithout.mem_kinds]
    split at hfind
    · contradiction
    · next hleft => exact ⟨hleft, h.mem_of_handler hfind⟩

theorem Anchored.of_kept (h : scene.Anchored) (hsound : after.named.Sound)
    (hkept : ∀ v ∈ scene.tree.kinds, v ∈ after.tree.kinds)
    (hmotions : ∀ {v motion}, after.animator.motion? v = some motion →
      ∃ earlier, scene.animator.motion? v = some earlier ∧ motion.view = earlier.view)
    (hhandlers : after.handlers = scene.handlers) : after.Anchored where
  sound := hsound
  mem_of_motion {v motion} hmotion := by
    obtain ⟨earlier, hearlier, hview⟩ := hmotions hmotion
    rw [hview]
    exact (h.mem_of_motion hearlier).imp_right (hkept v)
  mem_of_handler {v kind handler} hfind := by
    rw [hhandlers] at hfind
    exact hkept v (h.mem_of_handler hfind)

variable [Scalar K] [Clock T]

theorem Anchored.remove (h : scene.Anchored) (v : ViewId) :
    (scene.perform (.remove v)).Anchored := by
  obtain ⟨gone, hwithout⟩ := exists_without_remove h.sound v
  exact h.without hwithout

theorem Anchored.clear (h : scene.Anchored) (v : ViewId) :
    (scene.perform (.clear v)).Anchored := by
  obtain ⟨gone, after, hclear, -, hwithout⟩ := exists_clear h.sound v
  simp only [perform, settle, hclear]
  exact h.without hwithout

theorem Anchored.start (h : scene.Anchored) (v : ViewId) (destination : Rect K)
    (duration : Duration) : (scene.perform (.start v destination duration)).Anchored := by
  unfold perform settle Scene.start
  dsimp only
  cases hstart : scene.animator.start scene.tree v destination duration with
  | error e => exact h
  | ok animator =>
    refine ⟨h.sound, ?_, h.mem_of_handler⟩
    intro w motion hmotion
    dsimp only at hmotion ⊢
    obtain ⟨departure, hdeparture, hstarted⟩ := Animator.start_motion? hstart w
    rw [hstarted] at hmotion
    split at hmotion
    · next hw =>
      injection hmotion with hmotion
      subst hw hmotion
      have hformed : scene.tree.WellFormed := h.sound.wellFormed
      refine ⟨rfl, ?_⟩
      rw [← hformed.placed_iff_mem]
      exact Option.isSome_of_mem hdeparture
    · exact h.mem_of_motion hmotion

theorem Anchored.frame (h : scene.Anchored) (now : Instant) :
    (scene.perform (.frame now)).Anchored := by
  apply h.of_kept (perform_sound h.sound (.frame now)) _ _ rfl
  · intro v hv
    have hkinds : (scene.frame now).2.tree.kinds = scene.tree.kinds :=
      scene.animator.frame_keeps now scene.tree ViewTree.kinds ViewTree.place_kinds
    unfold perform
    rw [hkinds]
    exact hv
  · intro v motion hmotion
    unfold perform at hmotion
    rw [frame_motion?, Option.bind_eq_some_iff] at hmotion
    obtain ⟨earlier, hearlier, hleft⟩ := hmotion
    rw [Motion.left?_eq_some_iff] at hleft
    refine ⟨earlier, hearlier, ?_⟩
    rw [← hleft.2.2]

theorem Anchored.perform (h : scene.Anchored) {request : SceneRequest K T A X}
    (hcareful : request.Careful scene) : (scene.perform request).Anchored := by
  have hsound := perform_sound h.sound request
  cases request with
  | onTree request =>
    apply h.of_kept hsound _ (fun hmotion => ⟨_, hmotion, rfl⟩) rfl
    intro v hv
    apply NamedTree.mem_perform _ _ hv
    · intro w heq
      subst heq
      exact hcareful
    · intro w heq
      subst heq
      exact hcareful
  | remove v => apply h.remove
  | clear v => apply h.clear
  | start v destination duration => apply h.start
  | startDefault v destination => apply h.start v destination scene.animator.defaults.duration
  | stop v =>
    apply h.of_kept hsound (fun _ hv => hv) _ rfl
    intro w motion hmotion
    have hstop : (scene.perform (.stop v)).animator.motion? w = _ :=
      scene.animator.stop_motion? v w
    rw [hstop] at hmotion
    split at hmotion
    · contradiction
    · exact ⟨motion, hmotion, rfl⟩
  | stopAll =>
    apply h.of_kept hsound (fun _ hv => hv) _ rfl
    intro w motion hmotion
    simp [Scene.perform, Animator.stopAll, Animator.motion?, Animator.rest_motions] at hmotion
  | frame now => apply h.frame
  | setDefaults defaults =>
    exact h.of_kept hsound (fun _ hv => hv) (fun hmotion => ⟨_, hmotion, rfl⟩) rfl
  | setClock clock =>
    exact h.of_kept hsound (fun _ hv => hv) (fun hmotion => ⟨_, hmotion, rfl⟩) rfl
  | setOthers handlers queue nextHandler store =>
    refine ⟨hsound, h.mem_of_motion, ?_⟩
    intro v kind handler hfind
    cases hcareful v kind handler hfind with
    | inl hold => exact h.mem_of_handler hold
    | inr hmem => exact hmem

omit [Clock T] in
theorem new_anchored (names : ViewNames) (clock : T) (defaults : MotionDefaults) (store : X) :
    (new names clock defaults store : Scene K T A X).Anchored where
  sound := NamedTree.new_sound names
  mem_of_motion hmotion := by simp [new, Animator.idle, Animator.motion?] at hmotion
  mem_of_handler {v kind handler} hfind := by
    have hnone : (∅ : HandlerTable A).find? v kind = none := Std.ExtTreeMap.getElem?_empty
    simp [new, hnone] at hfind

/--
What moves and what is listened to is in the tree, and thus a frame finds all that it is to move.
-/
structure NothingDangles (scene : Scene K T A X) : Prop where
  target {v : ViewId} {motion : Motion K} :
    scene.animator.motion? v = some motion → motion.view = v ∧ scene.tree.contains v
  source {v : ViewId} {kind : EventKind} :
    (scene.handlers.find? v kind).isSome → scene.tree.contains v
  placed_eq (now : Instant) : (scene.frame now).1.placed = scene.animator.motions.size
  completed (now : Instant) : ∀ entry ∈ (scene.frame now).1.ended, entry.2 = .completed

theorem Anchored.completed (h : scene.Anchored) (now : Instant) :
    ∀ entry ∈ (scene.frame now).1.ended, entry.2 = .completed := by
  intro (v, phase) hentry
  obtain ⟨motion, hmotion, hending⟩ := mem_frame_ended_iff.mp hentry
  have hv := placed_of_mem h.sound (h.mem_of_motion hmotion).2
  rw [Motion.ending?_eq, if_pos hv] at hending
  split at hending
  · simpa [eq_comm] using hending
  · contradiction

theorem Anchored.placed_eq (h : scene.Anchored) (now : Instant) :
    (scene.frame now).1.placed = scene.animator.motions.size := by
  have htotal : (scene.frame now).1.placed +
      (scene.frame now).1.ended.countP (·.2 = .cancelled) = scene.animator.motions.size :=
    scene.animator.frame_placed_add_cancelled now scene.tree
  have hnone : (scene.frame now).1.ended.countP (·.2 = .cancelled) = 0 := by
    rw [List.countP_eq_zero]
    intro entry hentry
    simp [h.completed now entry hentry]
  omega

theorem Anchored.nothingDangles (h : scene.Anchored) : scene.NothingDangles where
  target hmotion := by
    rw [ViewTree.contains_iff_mem]
    exact h.mem_of_motion hmotion
  source {v kind} hsome := by
    rw [Option.isSome_iff_exists] at hsome
    obtain ⟨handler, hfind⟩ := hsome
    rw [ViewTree.contains_iff_mem]
    exact h.mem_of_handler hfind
  placed_eq := h.placed_eq
  completed := h.completed

section Leading

-- the animator moves what somebody else keeps
def frameOf {V : Type} [HasBounds V K] (views : V) (now : Instant) (scene : Scene K T A X) :
    Scene K T A X :=
  { scene with animator := (scene.animator.frame now views).2.1 }

theorem Anchored.frameOf {V : Type} [HasBounds V K] (h : scene.Anchored) (views : V)
    (now : Instant) : (scene.frameOf views now).Anchored := by
  have hsound : (scene.frameOf views now).named.Sound := h.sound
  apply h.of_kept hsound (fun _ hv => hv) _ rfl
  intro v left hleft
  unfold Scene.frameOf at hleft
  rw [Animator.frame_motion?_eq_some_iff] at hleft
  obtain ⟨motion, hmotion, -, -, rfl⟩ := hleft
  exact ⟨motion, hmotion, rfl⟩

inductive Proceeds (scene : Scene K T A X) : Scene K T A X → Prop where
  | request {request : SceneRequest K T A X} (careful : request.Careful scene) :
    Proceeds scene (scene.perform request)
  | frameOf {V : Type} [HasBounds V K] (views : V) (now : Instant) :
    Proceeds scene (scene.frameOf views now)

/--
Careful requests take the scene to the other one.
-/
def Leads : Scene K T A X → Scene K T A X → Prop := Relation.ReflTransGen Proceeds

theorem leads_perform (scene : Scene K T A X) (request : SceneRequest K T A X)
    (h : request.Careful scene) : scene.Leads (scene.perform request) :=
  .single (.request h)

theorem leads_frame (scene : Scene K T A X) (now : Instant) : scene.Leads (scene.frame now).2 :=
  scene.leads_perform (.frame now) trivial

theorem Leads.anchored (hleads : scene.Leads after) (h : scene.Anchored) : after.Anchored := by
  induction hleads with
  | refl => exact h
  | tail _ hproceeds ih =>
    cases hproceeds with
    | request hcareful => exact ih.perform hcareful
    | frameOf views now => exact ih.frameOf views now

/--
Nothing dangles, nor does it on the way to wherever careful requests lead.
-/
def NeverDangles (scene : Scene K T A X) : Prop :=
  ∀ after, scene.Leads after → after.NothingDangles

theorem Anchored.neverDangles (h : scene.Anchored) : scene.NeverDangles :=
  fun _ hleads => (hleads.anchored h).nothingDangles

end Leading

end Scene

end ViewMotion
