import ViewMotion.Proofs.Scene.Caution
import ViewMotion.Proofs.ViewTree.Staying

/-!
This module contains what holds of a scene in which views are only taken out by the scene itself.
Unlike in a careful one, anything that has a name may move, and somebody may listen to a view that
is not in the tree any more.
-/

namespace ViewMotion.Scene

variable {K T A X : Type} {late : Set ViewId} {scene next after : Scene K T A X}

/--
Whoever is listened to is in the tree, but for those that somebody came `late` to listen to.
-/
structure Attended (late : Set ViewId) (scene : Scene K T A X) : Prop extends scene.Tidy where
  source {v : ViewId} {kind : EventKind} {handler : Handler A} :
    scene.handlers.find? v kind = some handler → v ∈ scene.tree.kinds ∨ v ∈ late

theorem Attended.find?_eq_none_of_gone (h : scene.Attended late) {v : ViewId}
    (hv : v ∉ scene.tree.kinds) (hlate : v ∉ late) (kind : EventKind) :
    scene.handlers.find? v kind = none := by
  rw [Option.eq_none_iff_forall_ne_some]
  intro handler hfind
  exact (h.source hfind).elim hv hlate

theorem Attended.issued_of_moving (h : scene.Attended late) {v : ViewId}
    (hmoving : scene.animator.isMoving v) : scene.names.Issued v := by
  by_contra hv
  exact h.not_isMoving hv hmoving

theorem Attended.of_kept (h : scene.Attended late) (hstays : scene.named.Stays after.named)
    (hkept : ∀ v ∈ scene.tree.kinds, v ∈ after.tree.kinds)
    (hmoving : ∀ v, after.animator.isMoving v → scene.names.Issued v)
    (hhandlers : after.handlers = scene.handlers) : after.Attended late where
  sound := hstays.sound
  find?_eq_none {v} hv kind := by
    rw [hhandlers]
    exact h.find?_eq_none (fun hissued => hv (hstays.issued hissued)) kind
  motion?_eq_none {v} hv := by
    rw [Option.eq_none_iff_forall_ne_some]
    intro motion hmotion
    exact hv (hstays.issued (hmoving v (Animator.isMoving_of_motion? hmotion)))
  source {v kind handler} hfind := by
    rw [hhandlers] at hfind
    exact (h.source hfind).imp_left (hkept v)

theorem Attended.without {gone : List ViewId} (h : scene.Attended late)
    (hwithout : Without gone scene after) : after.Attended late where
  toTidy := hwithout.tidy h.toTidy
  source {v kind handler} hfind := by
    rw [hwithout.find?_eq] at hfind
    rw [hwithout.mem_kinds]
    split at hfind
    · contradiction
    · next hleft => exact (h.source hfind).imp_left fun hmem => ⟨hleft, hmem⟩

theorem Attended.listened (h : scene.Attended late) {handlers : HandlerTable A}
    (hissued : ∀ v kind handler, handlers.find? v kind = some handler →
      scene.handlers.find? v kind = some handler ∨
        scene.names.Issued v ∧ (v ∈ scene.tree.kinds ∨ v ∈ late))
    (queue : List Message) (nextHandler : HandlerId) (store : X) :
    ({ scene with handlers, queue, nextHandler, store } : Scene K T A X).Attended late where
  sound := h.sound
  find?_eq_none {v} hv kind := by
    rw [Option.eq_none_iff_forall_ne_some]
    intro handler hfind
    cases hissued v kind handler hfind with
    | inl hold =>
      rw [h.find?_eq_none hv] at hold
      contradiction
    | inr hnew => exact hv hnew.1
  motion?_eq_none hv := h.motion?_eq_none hv
  source {v kind handler} hfind := by
    cases hissued v kind handler hfind with
    | inl hold => exact h.source hold
    | inr hnew => exact hnew.2

variable [Scalar K] [Clock T]

theorem perform_stays (h : scene.named.Sound) (request : SceneRequest K T A X) :
    scene.named.Stays (scene.perform request).named := by
  obtain ⟨requests, hrequests⟩ := perform_named request scene
  rw [hrequests]
  exact NamedTree.run_stays h requests

theorem isMoving_of_start {v w : ViewId} {destination : Rect K} {duration : Duration}
    {animator : Animator K T}
    (hstart : scene.animator.start scene.tree v destination duration = .ok animator)
    (hmoving : animator.isMoving w) : w ∈ scene.tree.bounds ∨ scene.animator.isMoving w := by
  obtain ⟨departure, hdeparture, hstarted⟩ := Animator.start_motion? hstart w
  rw [Animator.isMoving_eq_isSome, hstarted] at hmoving
  split at hmoving
  · next hw =>
    left
    rw [← hw, ViewTree.mem_bounds_iff_isSome]
    exact Option.isSome_of_mem hdeparture
  · right
    rw [Animator.isMoving_eq_isSome]
    exact hmoving

theorem Attended.start (h : scene.Attended late) (v : ViewId) (destination : Rect K)
    (duration : Duration) : (scene.perform (.start v destination duration)).Attended late := by
  have hstays := perform_stays h.sound (.start v destination duration)
  unfold perform settle Scene.start at hstays ⊢
  dsimp only at hstays ⊢
  cases hstart : scene.animator.start scene.tree v destination duration with
  | error e => exact h
  | ok animator =>
    rw [hstart] at hstays
    apply h.of_kept hstays (fun _ hw => hw) _ rfl
    intro w hmoving
    cases isMoving_of_start hstart hmoving with
    | inl hplaced => exact h.sound.issued ((h.sound.wellFormed.mem_bounds w).mp hplaced)
    | inr hbefore => exact h.issued_of_moving hbefore

theorem Attended.perform (h : scene.Attended late) {request : SceneRequest K T A X}
    (hcareful : request.Careful scene) : (scene.perform request).Attended late := by
  have hstays := perform_stays h.sound request
  cases request with
  | onTree request =>
    apply h.of_kept hstays _ (fun _ hmoving => h.issued_of_moving hmoving) rfl
    intro v hv
    apply NamedTree.mem_perform _ _ hv
    · intro w heq
      subst heq
      exact hcareful
    · intro w heq
      subst heq
      exact hcareful
  | remove v =>
    obtain ⟨gone, hwithout⟩ := exists_without_remove h.sound v
    exact h.without hwithout
  | clear v =>
    obtain ⟨gone, after, hclear, -, hwithout⟩ := exists_clear h.sound v
    simp only [Scene.perform, settle, hclear]
    exact h.without hwithout
  | start v destination duration => exact h.start v destination duration
  | startDefault v destination => exact h.start v destination scene.animator.defaults.duration
  | stop v =>
    apply h.of_kept hstays (fun _ hw => hw) _ rfl
    intro w hmoving
    change (scene.animator.stop v).2.isMoving w at hmoving
    rw [Animator.isMoving_eq_isSome, Animator.stop_motion?] at hmoving
    split at hmoving
    · contradiction
    · rw [← Animator.isMoving_eq_isSome] at hmoving
      exact h.issued_of_moving hmoving
  | stopAll =>
    apply h.of_kept hstays (fun _ hw => hw) _ rfl
    intro w hmoving
    simp [Scene.perform, Animator.stopAll, Animator.isMoving, Animator.rest_motions] at hmoving
  | frame now =>
    apply h.of_kept hstays _ _ rfl
    · intro v hv
      have hkinds : (scene.frame now).2.tree.kinds = scene.tree.kinds :=
        scene.animator.frame_keeps now scene.tree ViewTree.kinds ViewTree.place_kinds
      change v ∈ (scene.frame now).2.tree.kinds
      rw [hkinds]
      exact hv
    · exact fun v hmoving => h.issued_of_moving (isMoving_of_frame hmoving)
  | setDefaults defaults =>
    exact h.of_kept hstays (fun _ hw => hw) (fun _ hmoving => h.issued_of_moving hmoving) rfl
  | setClock clock =>
    exact h.of_kept hstays (fun _ hw => hw) (fun _ hmoving => h.issued_of_moving hmoving) rfl
  | setOthers handlers queue nextHandler store =>
    apply h.listened
    intro v kind handler hfind
    apply (hcareful v kind handler hfind).imp_right
    exact fun hmem => ⟨h.sound.issued hmem, Or.inl hmem⟩

/--
What leads on from a scene if somebody may come `late` to listen, and let anything move that has a
name, but views are only taken out of the tree by the scene.
-/
inductive ProceedsBut (late : Set ViewId) (scene : Scene K T A X) : Scene K T A X → Prop where
  | careful {after : Scene K T A X} (h : scene.Proceeds after) : ProceedsBut late scene after
  | listen {v : ViewId} (hlate : v ∈ late) (hissued : scene.names.Issued v) (kind : EventKind)
    (handler : Handler A) (nextHandler : HandlerId) :
    ProceedsBut late scene
      { scene with handlers := scene.handlers.insert v kind handler, nextHandler }
  | animate (animator : Animator K T)
    (hissued : ∀ v, animator.isMoving v → scene.names.Issued v) :
    ProceedsBut late scene { scene with animator }

def LeadsBut (late : Set ViewId) : Scene K T A X → Scene K T A X → Prop :=
  Relation.ReflTransGen (ProceedsBut late)

theorem Attended.frameOf {V : Type} [HasBounds V K] (h : scene.Attended late) (views : V)
    (now : Instant) : (scene.frameOf views now).Attended late := by
  have hstays : scene.named.Stays (scene.frameOf views now).named := .refl h.sound
  apply h.of_kept hstays (fun _ hv => hv) _ rfl
  intro v hmoving
  unfold Scene.frameOf at hmoving
  rw [Animator.isMoving_eq_isSome, Option.isSome_iff_exists] at hmoving
  obtain ⟨left, hleft⟩ := hmoving
  rw [Animator.frame_motion?_eq_some_iff] at hleft
  obtain ⟨motion, hmotion, -⟩ := hleft
  exact h.issued_of_moving (Animator.isMoving_of_motion? hmotion)

theorem ProceedsBut.attended (hproceeds : scene.ProceedsBut late after)
    (h : scene.Attended late) : after.Attended late := by
  cases hproceeds with
  | careful hproceeds =>
    cases hproceeds with
    | request hcareful => exact h.perform hcareful
    | frameOf views now => exact h.frameOf views now
  | @listen v hlate hissued kind handler nextHandler =>
    apply h.listened
    intro w kind' handler' hfind
    rw [HandlerTable.insert_find?] at hfind
    split at hfind
    · next heq => exact Or.inr (heq.1 ▸ ⟨hissued, Or.inr hlate⟩)
    · exact Or.inl hfind
  | animate animator hissued => exact h.of_kept (.refl h.sound) (fun _ hv => hv) hissued rfl

theorem ProceedsBut.stays (hproceeds : scene.ProceedsBut late after) (h : scene.named.Sound) :
    scene.named.Stays after.named := by
  cases hproceeds with
  | careful hproceeds =>
    cases hproceeds with
    | request hcareful => exact perform_stays h _
    | frameOf views now => exact .refl h
  | listen => exact .refl h
  | animate => exact .refl h

theorem LeadsBut.attended (hleads : scene.LeadsBut late after) (h : scene.Attended late) :
    after.Attended late := by
  induction hleads with
  | refl => exact h
  | tail _ hproceeds ih => exact hproceeds.attended ih

theorem LeadsBut.stays (hleads : scene.LeadsBut late after) (h : scene.named.Sound) :
    scene.named.Stays after.named := by
  induction hleads with
  | refl => exact .refl h
  | tail _ hproceeds ih => exact ih.trans (hproceeds.stays ih.sound)

theorem Leads.leadsBut (h : scene.Leads after) (late : Set ViewId) : scene.LeadsBut late after :=
  Relation.ReflTransGen.mono (fun _ _ => .careful) _ _ h

end ViewMotion.Scene
