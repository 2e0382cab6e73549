import ViewMotion.Proofs.Gallery.BubbleBoard.Kept
import ViewMotion.Proofs.Scene.Refusal

/-!
This module contains what is there after a bubble was to be presented, on any board and in any
scene.
A bubble that has been made but cannot be moved is not taken back: it stays in its layer, and it is
the current one.
-/

namespace ViewMotion

namespace BubbleStyle

open BubbleBoard

variable {K : Type} [Scalar K]

def departure (style : BubbleStyle K) (anchor : Rect K) : Rect K :=
  if style.fadesIn then hidden anchor else shown anchor

def firstDestination (style : BubbleStyle K) (anchor : Rect K) : Rect K :=
  if style.fadesIn then shown anchor else grown

def destination (style : BubbleStyle K) (anchor : Rect K) : Rect K :=
  if style.fadesOut then hidden anchor else style.firstDestination anchor

end BubbleStyle

namespace BubbleBoard

variable {K T C X : Type}

/--
All motions but the one of the previous bubble.
-/
def otherMotion? (board : BubbleBoard) (scene : GalleryScene K T C X) (v : ViewId) :
    Option (Motion K) :=
  if board.current scene.store = some v then none else scene.animator.motion? v

/--
A bubble with a caption inside is all that has been added to the views, and it is the current one.
-/
structure Hung [Scalar K] (board : BubbleBoard) (anchor : ViewId) (style : BubbleStyle K)
    (bounds : Rect K) (scene : GalleryScene K T C X) (bubble : Bubble)
    (after : GalleryScene K T C X) : Prop where
  extended : scene.named.Extends (bubble.entries board.layer) after.named
  issued_iff (v : ViewId) : after.names.Issued v ↔
    v ∈ (bubble.entries board.layer).map Prod.fst ∨ scene.names.Issued v
  body_kind : after.tree.kind? bubble.body = some (.bubble style.color (some anchor))
  caption_kind : after.tree.kind? bubble.caption = some (.label style.caption)
  body_bounds : after.tree.bounds? bubble.body = some (style.departure bounds)
  caption_bounds : after.tree.bounds? bubble.caption = some ⟨⟨0, 0⟩, bubbleSize⟩
  bounds?_eq {v : ViewId} (hv : v ≠ bubble.body) (hv' : v ≠ bubble.caption) :
    after.tree.bounds? v = scene.tree.bounds? v
  current_eq : board.current after.store = some bubble.body
  motion?_eq {v : ViewId} (hv : v ≠ bubble.body) :
    after.animator.motion? v = board.otherMotion? scene v

/--
The bubble is there, but the board does not wait for its end.
-/
structure Loose [Scalar K] (board : BubbleBoard) (anchor : ViewId) (style : BubbleStyle K)
    (bounds : Rect K) (scene : GalleryScene K T C X) (bubble : Bubble)
    (after : GalleryScene K T C X) : Prop extends
    board.Hung anchor style bounds scene bubble after where
  handlers_eq : after.handlers = scene.handlers
  not_fading : (board.state after.store).fading = false

/--
The bubble is there and moves, and the board will hear of its end if it fades out.
-/
structure Moving [Scalar K] (board : BubbleBoard) (anchor : ViewId) (style : BubbleStyle K)
    (bounds : Rect K) (scene : GalleryScene K T C X) (bubble : Bubble)
    (after : GalleryScene K T C X) : Prop extends
    board.Hung anchor style bounds scene bubble after where
  destination?_eq : after.animator.destination? bubble.body = some (style.destination bounds)
  code?_eq (v : ViewId) (kind : EventKind) : after.handlers.code? v kind =
    if style.fadesOut ∧ bubble.body = v ∧ .motionEnded = kind then some (.closeFaded board)
    else scene.handlers.code? v kind
  fading_eq : (board.state after.store).fading = style.fadesOut

/--
The error with which no bubble is made. The anchor is looked for before the layer.
-/
inductive Lacking (board : BubbleBoard) (anchor : ViewId) (scene : GalleryScene K T C X) :
    GalleryError K → Prop where
  | anchor (h : anchor ∉ scene.tree.kinds) : Lacking board anchor scene (.view (.missing anchor))
  | layer (hanchor : anchor ∈ scene.tree.kinds) (h : board.layer ∉ scene.tree.kinds) :
    Lacking board anchor scene (.view (.missing board.layer))

/--
There is no bubble, but the previous one has been stopped and is not the current one any more.
-/
structure Refused (board : BubbleBoard) (anchor : ViewId) (scene : GalleryScene K T C X)
    (e : GalleryError K) (after : GalleryScene K T C X) : Prop where
  lacking : board.Lacking anchor scene e
  named_eq : after.named = scene.named
  handlers_eq : after.handlers = scene.handlers
  state_eq : board.state after.store = {}
  motion?_eq (v : ViewId) : after.animator.motion? v = board.otherMotion? scene v

/--
One of the destinations of the bubble is none. It may be the second one.
-/
inductive Stuck [Scalar K] (board : BubbleBoard) (style : BubbleStyle K) (bounds : Rect K)
    (scene : GalleryScene K T C X) (bubble : Bubble) (after : GalleryScene K T C X) :
    GalleryError K → Prop where
  | still (hinvalid : (style.firstDestination bounds).isValid = false)
    (hmotion : ∀ v, after.animator.motion? v = board.otherMotion? scene v) :
    Stuck board style bounds scene bubble after
      (.motion (.invalid (style.firstDestination bounds)))
  | moving (hvalid : (style.firstDestination bounds).isValid) (hfades : style.fadesOut)
    (hinvalid : (hidden bounds).isValid = false)
    (hmotion : after.animator.destination? bubble.body = some (style.firstDestination bounds)) :
    Stuck board style bounds scene bubble after (.motion (.invalid (hidden bounds)))

section Freezing

variable [Clock T] (board : BubbleBoard) (scene : GalleryScene K T C X)

theorem freeze_named : (board.freeze scene).named = scene.named := by
  unfold freeze
  split <;> rfl

theorem freeze_handlers : (board.freeze scene).handlers = scene.handlers := by
  unfold freeze
  split <;> rfl

theorem freeze_state : board.state (board.freeze scene).store = {} := by
  unfold freeze
  split <;> apply state_setState

theorem freeze_motion? (v : ViewId) :
    (board.freeze scene).animator.motion? v = board.otherMotion? scene v := by
  unfold otherMotion? freeze
  split
  · next hnone =>
    rw [hnone, if_neg nofun]
    rfl
  · next previous hprevious =>
    have hstop := scene.animator.stop_motion? previous v
    rw [hprevious]
    simp only [Option.some.injEq]
    exact hstop

end Freezing

variable {board : BubbleBoard} {anchor : ViewId} {style : BubbleStyle K} {bounds : Rect K}
  {scene after : GalleryScene K T C X} {bubble : Bubble}

theorem freeze_refused [Clock T] {e : GalleryError K} (h : board.Lacking anchor scene e) :
    board.Refused anchor scene e (board.freeze scene) where
  lacking := h
  named_eq := freeze_named board scene
  handlers_eq := freeze_handlers board scene
  state_eq := freeze_state board scene
  motion?_eq := freeze_motion? board scene

variable [Scalar K]

theorem place_bind {α : Type} {v : ViewId} {bounds : Rect K}
    {next : Unit → GalleryM (GalleryError K) K T C X α} {post : α → GalleryScene K T C X → Prop}
    {failed : GalleryError K → GalleryScene K T C X → Prop}
    (h : Ends (next ()) { scene with tree := (scene.tree.place v bounds).2 } post failed) :
    Ends (present.place v bounds >>= next) scene post failed :=
  Ends.bind_ok rfl h

theorem loose_of_grown {frozen grown : GalleryScene K T C X} (hnamed : frozen.named = scene.named)
    (hhandlers : frozen.handlers = scene.handlers)
    (hmotion : ∀ v, frozen.animator.motion? v = board.otherMotion? scene v)
    (h : Scene.Grown (bubble.entries board.layer) frozen grown)
    (hbody : grown.tree.kind? bubble.body = some (.bubble style.color (some anchor)))
    (hcaption : grown.tree.kind? bubble.caption = some (.label style.caption)) :
    let labelled := (grown.tree.place bubble.caption ⟨⟨0, 0⟩, bubbleSize⟩).2
    board.Loose anchor style bounds scene bubble
      { board.setState { current := some bubble.body } grown with
        tree := (labelled.place bubble.body (style.departure bounds)).2 } := by
  intro labelled
  have hmoved : ViewTree.Moved {bubble.body, bubble.caption} grown.tree
      (labelled.place bubble.body (style.departure bounds)).2 :=
    (grown.tree.place_moved _ (Or.inr rfl)).trans (labelled.place_moved _ (Or.inl rfl))
  have hmem {v : ViewId} (hv : v = bubble.body ∨ v = bubble.caption) :
      (grown.tree.bounds? v).isSome := by
    apply Scene.placed_of_mem h.sound
    apply (h.mem_kinds v).mpr
    simpa [Bubble.entries] using Or.inl hv
  have hne : bubble.caption ≠ bubble.body := by
    have hnodup := h.named_extends.nodup
    simp only [Bubble.entries, List.map_cons, List.map_nil, List.nodup_cons,
      List.mem_singleton] at hnodup
    exact fun heq => hnodup.1 heq.symm
  constructor
  case toHung =>
    constructor
    case extended =>
      rw [← hnamed]
      exact h.named_extends.moved hmoved
    case issued_iff =>
      have hnames : frozen.names = scene.names := congrArg NamedTree.names hnamed
      intro v
      rw [← hnames]
      exact h.issued_iff v
    case body_kind => exact (hmoved.kind?_eq _).trans hbody
    case caption_kind => exact (hmoved.kind?_eq _).trans hcaption
    case body_bounds =>
      dsimp only
      rw [ViewTree.place_bounds?, if_pos rfl, ViewTree.place_bounds?, if_neg hne]
      obtain ⟨old, hold⟩ := Option.isSome_iff_exists.mp (hmem (Or.inl rfl))
      rw [hold]
      rfl
    case caption_bounds =>
      dsimp only
      rw [ViewTree.place_bounds?, if_neg hne.symm, ViewTree.place_bounds?, if_pos rfl]
      obtain ⟨old, hold⟩ := Option.isSome_iff_exists.mp (hmem (Or.inr rfl))
      rw [hold]
      rfl
    case bounds?_eq =>
      intro v hv hv'
      have hold := hmoved.bounds?_eq fun hmem => hmem.elim hv hv'
      have htree : frozen.tree = scene.tree := congrArg NamedTree.tree hnamed
      rw [← htree, ← h.bounds?_eq (by simp [Bubble.entries, hv, hv'])]
      exact hold
    case current_eq => exact congrArg BoardState.current (state_setState _ grown)
    case motion?_eq =>
      intro v _
      rw [← hmotion, ← h.animator_eq]
      rfl
  case handlers_eq => exact h.handlers_eq.trans hhandlers
  case not_fading => exact congrArg BoardState.fading (state_setState _ grown)

section Moves

variable [Clock T]

/--
A view that is there moves as soon as its destination is one.
-/
theorem move_ends {v : ViewId} (h : scene.named.Sound) (hv : v ∈ scene.tree.kinds)
    (destination : Rect K) :
    Ends (present.move v destination : GalleryM (GalleryError K) K T C X Unit) scene
      (fun _ after => destination.isValid ∧ ∃ animator : Animator K T,
        after = { scene with animator } ∧ animator.destination? v = some destination ∧
          ∀ w, w ≠ v → animator.motion? w = scene.animator.motion? w)
      fun e after => destination.isValid = false ∧ e = .motion (.invalid destination) ∧
        after = scene := by
  have hformed : scene.tree.WellFormed := h.wellFormed
  have hyields := Scene.start_yields hformed destination duration (v := v)
  unfold present.move GalleryM.ofMotion
  apply Ends.adaptExcept
  cases hstart : (Scene.start v destination duration :
      GalleryM (MotionError K) K T C X Unit) scene with
  | error e next =>
    apply Ends.of_error hstart
    unfold Scene.Yields at hyields
    rw [hstart] at hyields
    obtain ⟨herror, rfl⟩ := hyields
    unfold Scene.startError? at herror
    split at herror
    · next hinvalid => exact ⟨Bool.eq_false_iff.mpr hinvalid, Option.some.inj herror ▸ rfl, rfl⟩
    · rw [if_pos (ViewTree.contains_iff_mem.mpr hv)] at herror
      contradiction
  | ok result next =>
    apply Ends.of_ok hstart
    obtain ⟨animator, hanimator, rfl⟩ := Scene.start_ok hstart
    obtain ⟨hvalid, -⟩ := Animator.start_eq_ok hanimator
    have hmotion (w : ViewId) := Animator.start_motion? hanimator w
    refine ⟨hvalid, animator, rfl, ?_, ?_⟩
    · obtain ⟨departure, -, heq⟩ := hmotion v
      unfold Animator.destination?
      rw [heq, if_pos rfl]
      rfl
    · intro w hw
      obtain ⟨departure, -, heq⟩ := hmotion w
      rw [heq, if_neg hw.symm]

namespace Loose

variable (h : board.Loose anchor style bounds scene bubble after)

include h

omit [Clock T] in
theorem start {animator : Animator K T}
    (hothers : ∀ v, v ≠ bubble.body → animator.motion? v = after.animator.motion? v) :
    board.Loose anchor style bounds scene bubble { after with animator } :=
  { h with motion?_eq := fun hv => (hothers _ hv).trans (h.motion?_eq hv) }

omit [Clock T] in
theorem moving (hstays : ¬ style.fadesOut)
    (hmotion : after.animator.destination? bubble.body = some (style.firstDestination bounds)) :
    board.Moving anchor style bounds scene bubble after where
  toHung := h.toHung
  destination?_eq := by
    unfold BubbleStyle.destination
    rw [if_neg hstays]
    exact hmotion
  code?_eq v kind := by
    rw [if_neg fun hfades => hstays hfades.1, h.handlers_eq]
  fading_eq := by
    rw [h.not_fading, Bool.eq_false_iff.mpr hstays]

omit [Clock T] in
theorem fade (hfades : style.fadesOut)
    (hmotion : after.animator.destination? bubble.body = some (hidden bounds)) :
    board.Moving anchor style bounds scene bubble
      (Scene.register bubble.body .motionEnded (.closeFaded board)
        (board.setState { current := some bubble.body, fading := true } after)) := by
  have hstate : board.state (board.setState ⟨some bubble.body, true⟩ after).store = _ :=
    state_setState _ after
  constructor
  case toHung => exact { h.toHung with current_eq := congrArg BoardState.current hstate }
  case destination?_eq =>
    unfold BubbleStyle.destination
    rw [if_pos hfades]
    exact hmotion
  case code?_eq =>
    intro v kind
    rw [Scene.register_code?, ← h.handlers_eq]
    simp only [hfades, true_and]
    rfl
  case fading_eq =>
    rw [hfades]
    exact congrArg BoardState.fading hstate

/--
The first destination is taken before the second one is looked at.
-/
theorem moves (hmotion : ∀ v, after.animator.motion? v = board.otherMotion? scene v)
    {first : Rect K} (hfirst : first = style.firstDestination bounds) :
    Ends (do
      present.move bubble.body first
      if style.fadesOut then
        present.move bubble.body (hidden bounds)
        modify (board.setState { current := some bubble.body, fading := true })
        modify (Scene.register bubble.body .motionEnded (.closeFaded board))
      return bubble.body : GalleryM (GalleryError K) K T C X ViewId) after
      (fun body last => body = bubble.body ∧ (style.firstDestination bounds).isValid ∧
        (style.fadesOut → (hidden bounds).isValid) ∧
        board.Moving anchor style bounds scene bubble last)
      fun e last => board.Loose anchor style bounds scene bubble last ∧
        board.Stuck style bounds scene bubble last e := by
  subst hfirst
  have hmem : bubble.body ∈ after.tree.kinds := by
    apply (h.extended.mem_kinds _).mpr
    exact Or.inl List.mem_cons_self
  apply Ends.bind
  apply (move_ends h.extended.sound hmem _).mono
  · rintro _ _ ⟨hvalid, animator, rfl, hdestination, hothers⟩
    have hstarted := h.start hothers
    dsimp only
    split
    · next hfades =>
      apply Ends.bind
      apply (move_ends hstarted.extended.sound hmem _).mono
      · rintro _ _ ⟨hvalid', animator', rfl, hdestination', hothers'⟩
        apply Ends.modify_bind
        apply Ends.modify_bind
        apply Ends.pure
        exact ⟨rfl, hvalid, fun _ => hvalid', (hstarted.start hothers').fade hfades hdestination'⟩
      · rintro _ _ ⟨hinvalid, rfl, rfl⟩
        exact ⟨hstarted, .moving hvalid hfades hinvalid hdestination⟩
    · next hstays =>
      apply Ends.pure
      exact ⟨rfl, hvalid, fun hfades => absurd hfades hstays, hstarted.moving hstays hdestination⟩
  · rintro _ _ ⟨hinvalid, rfl, rfl⟩
    exact ⟨h, .still hinvalid hmotion⟩

end Loose

theorem present_cases (h : scene.named.Sound) (board : BubbleBoard) (anchor : ViewId)
    (style : BubbleStyle K) :
    Ends (board.present anchor style) scene
      (fun body after => ∃ bounds caption, scene.tree.bounds? anchor = some bounds ∧
        board.layer ∈ scene.tree.kinds ∧ (style.firstDestination bounds).isValid ∧
        (style.fadesOut → (hidden bounds).isValid) ∧
        board.Moving anchor style bounds scene ⟨body, caption⟩ after)
      fun e after => board.Refused anchor scene e after ∨
        ∃ bounds bubble, scene.tree.bounds? anchor = some bounds ∧
          board.layer ∈ scene.tree.kinds ∧ board.Loose anchor style bounds scene bubble after ∧
          board.Stuck style bounds scene bubble after e := by
  have hrefused := @freeze_refused K T C X board anchor scene _
  have hnamed := freeze_named board scene
  have hhandlers := freeze_handlers board scene
  have hmotion := freeze_motion? board scene
  unfold present
  apply Ends.modify_bind
  apply Ends.get_bind
  generalize board.freeze scene = frozen at hrefused hnamed hhandlers hmotion ⊢
  have htree : frozen.tree = scene.tree := congrArg NamedTree.tree hnamed
  have hsound : frozen.named.Sound := hnamed ▸ h
  have hformed : scene.tree.WellFormed := h.wellFormed
  rw [htree]
  apply Ends.bind
  apply Ends.adaptExcept
  cases hbounds : scene.tree.bounds? anchor with
  | none =>
    have hanchor : anchor ∉ scene.tree.kinds := by
      rw [← hformed.placed_iff_mem, hbounds]
      exact Bool.false_ne_true
    have hrequire : (Scene.onTree (Layout.require anchor (none : Option (Rect K))) :
        GalleryM ViewError K T C X (Rect K)) frozen = .error (.missing anchor) frozen := rfl
    exact Ends.of_error hrequire (Or.inl (hrefused (.anchor hanchor)))
  | some bounds =>
    have hanchor : anchor ∈ scene.tree.kinds := by
      rw [← hformed.placed_iff_mem, hbounds]
      rfl
    have hrequire : (Scene.onTree (Layout.require anchor (some bounds)) :
        GalleryM ViewError K T C X (Rect K)) frozen = .ok bounds frozen := rfl
    apply Ends.of_ok hrequire
    by_cases hlayer : board.layer ∈ scene.tree.kinds
    · have hlayer' : board.layer ∈ frozen.tree.kinds := htree ▸ hlayer
      apply ((Scene.add_grown hsound hlayer' _).adaptExcept _).bind_ends
      intro body first hfirst
      have hbody : body ∈ first.tree.kinds :=
        (hfirst.1.mem_kinds body).mpr (Or.inl List.mem_cons_self)
      apply ((hfirst.1.add hbody _).adaptExcept _).bind_ends
      intro caption second ⟨hgrown, hsecond, hcaption⟩
      have hloose : board.Loose anchor style bounds scene ⟨body, caption⟩ _ :=
        loose_of_grown hnamed hhandlers hmotion hgrown (hsecond.kind?_of_some hfirst.2) hcaption
      have hmotion' (v : ViewId) : second.animator.motion? v = board.otherMotion? scene v := by
        rw [hgrown.animator_eq]
        exact hmotion v
      have hmoves {first : Rect K} (hfirst : first = style.firstDestination bounds) :=
        hloose.moves hmotion' hfirst
      unfold BubbleStyle.departure at hmoves
      apply place_bind
      apply Ends.modify_bind
      apply Ends.mono
      case h =>
        dsimp only
        split
        · next hfades =>
          rw [if_pos hfades] at hmoves
          apply place_bind
          exact hmoves (if_pos hfades).symm
        · next hstays =>
          rw [if_neg hstays] at hmoves
          apply place_bind
          exact hmoves (if_neg hstays).symm
      case hpost =>
        rintro _ _ ⟨rfl, hvalid, hvalid', hmoving⟩
        exact ⟨bounds, caption, rfl, hlayer, hvalid, hvalid', hmoving⟩
      case hfailed =>
        intro _ _ ⟨hloose, hstuck⟩
        exact Or.inr ⟨bounds, ⟨body, caption⟩, rfl, hlayer, hloose, hstuck⟩
    · have hlayer' : board.layer ∉ frozen.tree.kinds := htree ▸ hlayer
      apply Ends.bind
      apply Ends.adaptExcept
      exact Ends.of_error (Scene.add_error hlayer' _) (Or.inl (hrefused (.layer hanchor hlayer)))

end Moves

end BubbleBoard

end ViewMotion
