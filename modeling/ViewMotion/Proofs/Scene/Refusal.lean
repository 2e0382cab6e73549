import ViewMotion.Proofs.ExactScalar
import ViewMotion.Proofs.Motion.Subscription
import ViewMotion.Proofs.Scene.History

/-!
This module contains the requests that can fail: which of them do fail, with which error, and that
a request that fails leaves everything as it is.
-/

namespace ViewMotion

/--
Requests that can fail, whoever makes them. Those that are `Among` some views are about views of
another owner than the scene.
-/
inductive Attempt (V K : Type) where
  | add (parent : ViewId) (kind : ViewKind K)
  | remove (v : ViewId)
  | removeFromTree (v : ViewId)
  | clearInTree (v : ViewId)
  | setGroup (v : ViewId) (group : Nat)
  | modifyKind (v : ViewId) (change : ViewKind K → ViewKind K)
  | place (v : ViewId) (bounds : Rect K)
  | start (v : ViewId) (destination : Rect K) (duration : Duration)
  | startDefault (v : ViewId) (destination : Rect K)
  | startAmong (views : V) (v : ViewId) (destination : Rect K) (duration : Duration)
  | startDefaultAmong (views : V) (v : ViewId) (destination : Rect K)
  | stop (v : ViewId)
  | unregister (source : ViewId) (kind : EventKind)

inductive Refusal (K : Type) where
  | view (e : ViewError)
  | motion (e : MotionError K)
  | untold
deriving DecidableEq, Repr

theorem HandlerTable.erase_of_find?_eq_none {A : Type} {table : HandlerTable A} {source : ViewId}
    {kind : EventKind} (h : table.find? source kind = none) :
    (table.erase source kind).2 = table := by
  have hentries : table.entries.erase ⟨source, kind⟩ = table.entries := by
    apply Std.ExtTreeMap.ext_getElem?
    intro key
    simp only [Std.ExtTreeMap.getElem?_erase, Std.LawfulEqOrd.compare_eq_iff_eq]
    split
    · next hkey =>
      rw [← hkey]
      exact h.symm
    · simp
  simp [erase, hentries]

namespace Scene

variable {V K T A X ε α : Type}

def changeTree (change : ViewTree K → Except ε (ViewTree K)) : EStateM ε (Scene K T A X) Unit :=
  fun scene =>
    match change scene.tree with
    | .error e => .error e scene
    | .ok tree => .ok () { scene with tree }

def changeAnimator (change : Animator K T → Except ε (Animator K T)) :
    EStateM ε (Scene K T A X) Unit :=
  fun scene =>
    match change scene.animator with
    | .error e => .error e scene
    | .ok animator => .ok () { scene with animator }

def tell (refusal : ε → Refusal K) (action : EStateM ε (Scene K T A X) α)
    (scene : Scene K T A X) : Option (Refusal K) × Scene K T A X :=
  match action scene with
  | .ok _ after => (none, after)
  | .error e after => (some (refusal e), after)

def orUntold (done : Bool) : Option (Refusal K) := if done then none else some .untold

variable [Scalar K] [Clock T] [HasBounds V K]

def attempt (scene : Scene K T A X) : Attempt V K → Option (Refusal K) × Scene K T A X
  | .add parent kind => tell .view (add parent kind) scene
  | .remove v => tell .view (remove v) scene
  | .removeFromTree v => tell .view (changeTree (·.remove v)) scene
  | .clearInTree v => tell .view (changeTree (·.clear v)) scene
  | .setGroup v group => tell .view (setGroup v group) scene
  | .modifyKind v change =>
    match scene.tree.modifyKind? v change with
    | none => (some .untold, scene)
    | some tree => (none, { scene with tree })
  | .place v bounds =>
    let (placed, tree) := scene.tree.place v bounds
    (orUntold placed, { scene with tree })
  | .start v destination duration => tell .motion (start v destination duration) scene
  | .startDefault v destination => tell .motion (startDefault v destination) scene
  | .startAmong views v destination duration =>
    tell .motion (changeAnimator (·.start views v destination duration)) scene
  | .startDefaultAmong views v destination =>
    tell .motion (changeAnimator (·.startDefault views v destination)) scene
  | .stop v =>
    let (stopped, after) := scene.stop v
    (orUntold stopped, after)
  | .unregister source kind =>
    let (erased, handlers) := scene.handlers.erase source kind
    (orUntold erased, { scene with handlers })

def missingError? (scene : Scene K T A X) (v : ViewId) : Option ViewError :=
  if scene.tree.contains v then none else some (.missing v)

def removeError? (scene : Scene K T A X) (v : ViewId) : Option ViewError :=
  if v = scene.tree.root then some .isRoot else scene.missingError? v

def startError? (isThere : Bool) (v : ViewId) (destination : Rect K) : Option (MotionError K) :=
  -- a destination that is not valid is told of even if the view is missing
  if ¬ destination.isValid then some (.invalid destination)
  else if isThere then none
  else some (.missing v)

/--
The refusal that is due, if there is one. It is known before anything is tried.
-/
def refusal? (scene : Scene K T A X) : Attempt V K → Option (Refusal K)
  | .add parent _ => (scene.missingError? parent).map .view
  | .remove v | .removeFromTree v => (scene.removeError? v).map .view
  | .clearInTree v | .setGroup v _ => (scene.missingError? v).map .view
  | .modifyKind v _ | .place v _ => orUntold (scene.tree.contains v)
  | .start v destination _ | .startDefault v destination =>
    (startError? (scene.tree.contains v) v destination).map .motion
  | .startAmong views v destination _ | .startDefaultAmong views v destination =>
    (startError? (HasBounds.bounds? views v).isSome v destination).map .motion
  | .stop v => orUntold (scene.animator.isMoving v)
  | .unregister source kind => orUntold (scene.handlers.find? source kind).isSome

section Starting

variable {animator started : Animator K T} {views : V} {v : ViewId} {destination : Rect K}
  {duration : Duration}

theorem startError?_eq_none (h : animator.start views v destination duration = .ok started) :
    startError? (HasBounds.bounds? views v).isSome v destination = none := by
  obtain ⟨hvalid, departure, hdeparture, -⟩ := Animator.start_eq_ok h
  simp [startError?, hvalid, hdeparture]

theorem startError?_eq_some {e : MotionError K}
    (h : animator.start views v destination duration = .error e) :
    startError? (HasBounds.bounds? views v).isSome v destination = some e := by
  unfold Animator.start at h
  unfold startError?
  split at h
  · next hvalid => split at h <;> simp_all
  · next hvalid => simp_all

end Starting

def Yields (action : EStateM ε (Scene K T A X) α) (scene : Scene K T A X) (error? : Option ε) :
    Prop :=
  match action scene with
  | .ok _ _ => error? = none
  | .error e after => error? = some e ∧ after = scene

def Answers (scene : Scene K T A X) (outcome : Option (Refusal K) × Scene K T A X)
    (refusal? : Option (Refusal K)) : Prop :=
  outcome.1 = refusal? ∧ (outcome.1.isSome → outcome.2 = scene)

section Answering

variable {scene : Scene K T A X} {v : ViewId}

omit [Scalar K] [Clock T] in
theorem Yields.answers {action : EStateM ε (Scene K T A X) α} {error? : Option ε}
    (h : Yields action scene error?) (refusal : ε → Refusal K) :
    scene.Answers (tell refusal action scene) (error?.map refusal) := by
  unfold Yields at h
  unfold Answers tell
  cases haction : action scene <;> simp_all

omit [Clock T] in
theorem add_yields (kind : ViewKind K) : Yields (add v kind) scene (scene.missingError? v) := by
  unfold Yields add ViewTree.insert missingError?
  cases scene.tree.contains v <;> simp

omit [Scalar K] in
theorem remove_yields : Yields (remove v) scene (scene.removeError? v) := by
  unfold Yields remove ViewTree.remove removeError? missingError?
  by_cases hroot : v = scene.tree.root
  · simp [hroot]
  · cases scene.tree.contains v <;> simp [hroot]

omit [Scalar K] [Clock T] in
theorem removeFromTree_yields :
    Yields (changeTree (·.remove v)) scene (scene.removeError? v) := by
  unfold Yields changeTree removeError? missingError?
  simp only [ViewTree.remove]
  by_cases hroot : v = scene.tree.root
  · simp [hroot]
  · cases scene.tree.contains v <;> simp [hroot]

omit [Scalar K] [Clock T] in
theorem clearInTree_yields (h : scene.tree.WellFormed) :
    Yields (changeTree (·.clear v)) scene (scene.missingError? v) := by
  have hlist : scene.tree.contains v = scene.tree.subviewLists[v]?.isSome := by
    rw [← Std.ExtTreeMap.contains_eq_isSome_getElem?, Bool.eq_iff_iff]
    symm
    apply h.mem_subviewLists
  unfold Yields changeTree missingError?
  simp only [ViewTree.clear, hlist]
  cases scene.tree.subviewLists[v]? <;> simp

omit [Scalar K] [Clock T] in
theorem setGroup_yields (group : Nat) :
    Yields (setGroup v group) scene (scene.missingError? v) := by
  unfold Yields setGroup ViewTree.setGroup missingError?
  cases scene.tree.contains v <;> simp

theorem changeAnimator_yields (views : V) (destination : Rect K) (duration : Duration) :
    Yields (changeAnimator (·.start views v destination duration)) scene
      (startError? (HasBounds.bounds? views v).isSome v destination) := by
  unfold Yields changeAnimator
  cases hstart : scene.animator.start views v destination duration with
  | ok animator => simpa [hstart] using startError?_eq_none hstart
  | error e => simpa [hstart] using startError?_eq_some hstart

omit [Scalar K] [Clock T] in
theorem contains_eq_isSome (h : scene.tree.WellFormed) :
    scene.tree.contains v = (scene.tree.bounds? v).isSome := by
  unfold ViewTree.bounds?
  rw [← Std.ExtTreeMap.contains_eq_isSome_getElem?, Bool.eq_iff_iff]
  symm
  apply h.mem_bounds

theorem start_yields (h : scene.tree.WellFormed) (destination : Rect K) (duration : Duration) :
    Yields (start v destination duration) scene
      (startError? (scene.tree.contains v) v destination) := by
  rw [contains_eq_isSome h]
  unfold Yields start
  cases hstart : scene.animator.start scene.tree v destination duration with
  | ok animator => exact startError?_eq_none hstart
  | error e => exact ⟨startError?_eq_some hstart, rfl⟩

omit [Scalar K] [Clock T] in
theorem Yields.of_apply_eq {action other : EStateM ε (Scene K T A X) α} {error? : Option ε}
    (h : Yields other scene error?) (heq : action scene = other scene) :
    Yields action scene error? := by
  unfold Yields
  rw [heq]
  exact h

theorem startDefault_yields (h : scene.tree.WellFormed) (destination : Rect K) :
    Yields (startDefault v destination) scene
      (startError? (scene.tree.contains v) v destination) := by
  apply (start_yields h destination scene.animator.defaults.duration).of_apply_eq
  rfl

theorem changeDefault_yields (views : V) (destination : Rect K) :
    Yields (changeAnimator (·.startDefault views v destination)) scene
      (startError? (HasBounds.bounds? views v).isSome v destination) := by
  apply (changeAnimator_yields views destination scene.animator.defaults.duration).of_apply_eq
  rfl

omit [Scalar K] [Clock T] in
theorem answers_orUntold {done expected : Bool} {after : Scene K T A X} (hdone : done = expected)
    (hkeep : expected = false → after = scene) :
    scene.Answers (orUntold done, after) (orUntold expected) := by
  unfold Answers orUntold
  cases expected <;> simp_all

theorem modifyKind_answers (change : ViewKind K → ViewKind K) :
    scene.Answers (scene.attempt (.modifyKind v change : Attempt V K))
      (orUntold (scene.tree.contains v)) := by
  unfold Answers attempt orUntold
  simp only [ViewTree.modifyKind?, ViewTree.kind?, ViewTree.contains,
    Std.ExtTreeMap.contains_eq_isSome_getElem?]
  cases scene.tree.kinds[v]? <;> simp

omit [Clock T] in
theorem place_answers (h : scene.tree.WellFormed) (bounds : Rect K) :
    scene.Answers (orUntold (scene.tree.place v bounds).1,
      { scene with tree := (scene.tree.place v bounds).2 }) (orUntold (scene.tree.contains v)) := by
  rw [contains_eq_isSome h]
  apply answers_orUntold (scene.tree.place_fst v bounds)
  intro hmissing
  simp at hmissing
  simp [ViewTree.place, hmissing]

omit [Scalar K] in
theorem stop_answers :
    scene.Answers (orUntold (scene.stop v).1, (scene.stop v).2)
      (orUntold (scene.animator.isMoving v)) := by
  apply answers_orUntold (scene.animator.stop_fst v)
  intro hidle
  simp [stop, Animator.stop, hidle]

omit [Scalar K] [Clock T] in
theorem unregister_answers (kind : EventKind) :
    scene.Answers (orUntold (scene.handlers.erase v kind).1,
      { scene with handlers := (scene.handlers.erase v kind).2 })
      (orUntold (scene.handlers.find? v kind).isSome) := by
  apply answers_orUntold (scene.handlers.erase_fst v kind)
  intro hnone
  rw [Option.isSome_eq_false_iff, Option.isNone_iff_eq_none] at hnone
  rw [HandlerTable.erase_of_find?_eq_none hnone]

end Answering

theorem attempt_answers {scene : Scene K T A X} (h : scene.tree.WellFormed)
    (request : Attempt V K) : scene.Answers (scene.attempt request) (scene.refusal? request) := by
  cases request with
  | add parent kind => apply (add_yields kind).answers
  | remove v => apply remove_yields.answers
  | removeFromTree v => apply removeFromTree_yields.answers
  | clearInTree v => apply (clearInTree_yields h).answers
  | setGroup v group => apply (setGroup_yields group).answers
  | modifyKind v change => apply modifyKind_answers
  | place v bounds => apply place_answers h
  | start v destination duration => apply (start_yields h destination duration).answers
  | startDefault v destination => apply (startDefault_yields h destination).answers
  | startAmong views v destination duration =>
    apply (changeAnimator_yields views destination duration).answers
  | startDefaultAmong views v destination => apply (changeDefault_yields views destination).answers
  | stop v => apply stop_answers
  | unregister source kind => apply unregister_answers

/--
A request is refused if and only if a refusal is due, with that error, and then all that there is
stays as it was: the tree with its marks, the motions, the clock, the handlers and the names.
-/
theorem refusal_changes_nothing (names : ViewNames) (clock : T) (defaults : MotionDefaults)
    (store : X) (requests : List (SceneRequest K T A X)) (request : Attempt V K) :
    let scene := (new names clock defaults store).run requests
    (scene.attempt request).1 = scene.refusal? request ∧
      ((scene.attempt request).1.isSome → (scene.attempt request).2 = scene) := by
  intro scene
  have hreachable : scene.Reachable := ⟨names, clock, defaults, store, requests, rfl⟩
  apply attempt_answers hreachable.wellFormed

example :
    let nowhere : Rect Rat := .ofXYWH 0 0 (-1) 1
    startError? false ⟨9⟩ nowhere = some (.invalid nowhere) := by
  decide +kernel

end Scene

end ViewMotion
