import ViewMotion.Proofs.Gallery.BubbleBoard.Presenting
import ViewMotion.Proofs.Motion.Outcome

/-!
This module contains what becomes of a board in a frame. The current bubble is closed if it has
faded out by then. The ends of all other motions are heard by nobody, or by handlers that leave
everything as it is.
-/

namespace ViewMotion

namespace BubbleBoard

variable {K T C X : Type} {board : BubbleBoard} [Clock T] [Scalar K]
  {built scene after : GalleryScene K T C X} {shown : List Bubble} {v : ViewId} {now : Instant}

/--
The bubble has come to the end of its way back into the point that it came from.
-/
structure Fades (board : BubbleBoard) (scene : GalleryScene K T C X) (now : Instant) (v : ViewId) :
    Prop where
  current_eq : board.current scene.store = some v
  fading : (board.state scene.store).fading
  ended : (v, .completed) ∈ (scene.frame now).1.ended

theorem Shows.frame (h : board.Shows built shown scene) (now : Instant) :
    board.Shows built shown (scene.frame now).2 where
  grown := h.grown.moved (scene.animator.frame_moved now scene.tree)
  moving hw := h.moving (Scene.isMoving_of_frame hw)
  current_shown hw := h.current_shown hw
  code?_eq hw := h.code?_eq hw
  code?_body hw := h.code?_body hw

theorem Kept.frame (h : board.Kept built shown scene) (hnot : ∀ v, ¬ board.Fades scene now v) :
    board.Kept built shown (scene.frame now).2 where
  toShows := h.toShows.frame now
  fading hfading := by
    rcases h.fading hfading with ⟨w, motion, hcurrent, hmotion, hsize, hcode⟩
    have hplaced : (scene.tree.bounds? w).isSome :=
      Scene.placed_of_mem h.grown.sound (h.body_mem (h.current_shown hcurrent))
    have hdone : ¬ motion.isDone now := by
      intro hdone
      refine hnot w ⟨hcurrent, hfading, ?_⟩
      rw [Scene.mem_frame_ended_iff]
      refine ⟨motion, hmotion, ?_⟩
      rw [Motion.ending?_eq, if_pos hplaced, if_pos hdone]
    refine ⟨w, { motion with phase := .running }, hcurrent, ?_, hsize, hcode⟩
    rw [Scene.frame_motion?, hmotion, Option.bind_some, Motion.left?_eq_some_iff]
    exact ⟨hplaced, hdone, rfl⟩

section Ends

variable (h : board.Shows built shown scene) (hready : board.Ready built)

include h hready

omit [Clock T] [Scalar K] in
theorem Shows.code?_moving (hv : built.animator.isMoving v) :
    scene.handlers.code? v .motionEnded = none := by
  have hissued : built.names.Issued v := by
    by_contra hnew
    exact hready.tidy.not_isMoving hnew hv
  rw [h.code?_eq (Or.inl fun hmem => h.body_fresh hmem hissued)]
  exact hready.unheard v hv

omit hready in
theorem Shows.ended_cases {phase : Phase} (hended : (v, phase) ∈ (scene.frame now).1.ended) :
    built.animator.isMoving v ∨ board.current scene.store = some v ∧ phase = .completed := by
  rw [Scene.mem_frame_ended_iff] at hended
  rcases hended with ⟨motion, hmotion, hending⟩
  apply (h.moving (Animator.isMoving_of_motion? hmotion)).imp_right
  intro hcurrent
  refine ⟨hcurrent, ?_⟩
  have hplaced : (scene.tree.bounds? v).isSome :=
    Scene.placed_of_mem h.grown.sound (h.body_mem (h.current_shown hcurrent))
  rw [Motion.ending?_eq, if_pos hplaced] at hending
  split at hending
  · injection hending with hending
    exact hending.symm
  · contradiction

end Ends

/--
The bubble is gone, with everything that was kept for it.
-/
structure Closed (board : BubbleBoard) (built : GalleryScene K T C X) (shown : List Bubble)
    (scene : GalleryScene K T C X) (v : ViewId) (after : GalleryScene K T C X) : Prop where
  kept : board.Kept built (shown.filter (·.body ≠ v)) after
  state_eq : board.state after.store = {}
  names_eq : after.names = scene.names
  caption_not_mem {bubble : Bubble} (hb : bubble ∈ shown) (hv : bubble.body = v) :
    bubble.caption ∉ after.tree.kinds
  find?_eq_none (kind : EventKind) : after.handlers.find? v kind = none
  motion?_eq_none : after.animator.motion? v = none
  bounds?_eq {bubble : Bubble} (hb : bubble ∈ shown) (hv : bubble.body ≠ v) :
    after.tree.bounds? bubble.body = scene.tree.bounds? bubble.body

section Closing

omit [Scalar K]

variable {event : Event}

theorem settle_closeFaded (hcurrent : board.current scene.store = some event.source)
    (hfading : (board.state scene.store).fading) (hphase : event.phase = some .completed) :
    Scene.settle (board.closeFaded event) scene =
      Scene.settle (Scene.remove event.source) (board.setState {} scene) := by
  have hcloses : board.closeFaded event scene =
      Scene.remove event.source (board.setState {} scene) := by
    change (if (board.state scene.store).current = some event.source ∧
      (board.state scene.store).fading ∧ _ then _ else _ : GalleryM ViewError K T C X Unit) scene = _
    rw [if_pos ⟨hcurrent, hfading, hphase⟩]
    rfl
  unfold Scene.settle
  rw [hcloses]

theorem settle_closeFaded_of_not (hfading : ¬ (board.state scene.store).fading) :
    Scene.settle (board.closeFaded event) scene = scene := by
  have hkeeps : board.closeFaded event scene = .ok () scene := by
    change (if (board.state scene.store).current = some event.source ∧
      (board.state scene.store).fading ∧ _ then _ else _ : GalleryM ViewError K T C X Unit) scene = _
    rw [if_neg fun hcloses => hfading hcloses.2.1]
    rfl
  unfold Scene.settle
  rw [hkeeps]

end Closing

section Removing

variable {bubble : Bubble} {gone : List ViewId} {after : GalleryScene K T C X}
  (h : board.Shows built shown scene) (hready : board.Ready built) (hb : bubble ∈ shown)
  (hgone : ∀ w, w ∈ gone ↔ scene.tree.Encloses bubble.body w)

include h hready hb hgone

omit [Scalar K] [Clock T] in
theorem Shows.gone_iff {b : Bubble} (hmem : b ∈ shown) :
    (b.body ∈ gone ↔ b.body = bubble.body) ∧ (b.caption ∈ gone ↔ b.body = bubble.body) := by
  have hnodup := h.grown.nodup
  have hparts (w : ViewId) : w ∈ gone ↔ w = bubble.body ∨ w = bubble.caption :=
    (hgone w).trans (h.encloses_body_iff hready hb w)
  rw [hparts, hparts]
  constructor
  · constructor
    · exact fun hw => hw.resolve_right (body_ne_caption hnodup hmem hb)
    · exact Or.inl
  · constructor
    · intro hw
      rw [eq_of_nodup hnodup hmem hb (Or.inr rfl) hw]
    · intro hw
      rw [eq_of_nodup hnodup hmem hb (Or.inl rfl) (Or.inl hw)]
      exact Or.inr rfl

omit [Scalar K] [Clock T] in
theorem Shows.without (hcurrent : board.current scene.store = some bubble.body)
    (hwithout : Scene.Without gone (board.setState {} scene) after)
    (hgrown : built.named.Extends ((board.entries shown).filter (·.1 ∉ gone)) after.named)
    (hstate : board.state after.store = {}) :
    board.Shows built (shown.filter (·.body ≠ bubble.body)) after := by
  have hleft {w : ViewId} (hw : w ∈ shown.map Bubble.body) (hnot : w ∉ gone) :
      w ∈ (shown.filter (·.body ≠ bubble.body)).map Bubble.body := by
    rcases List.mem_map.mp hw with ⟨b, hmem, rfl⟩
    apply List.mem_map_of_mem
    rw [List.mem_filter, decide_eq_true_iff]
    exact ⟨hmem, fun heq => hnot ((h.gone_iff hready hb hgone hmem).1.mpr heq)⟩
  constructor
  case grown =>
    rw [entries_filter fun b hmem => h.gone_iff hready hb hgone hmem] at hgrown
    exact hgrown
  case moving =>
    intro w hw
    rcases hwithout.of_isMoving hw with ⟨hnot, hw⟩
    apply Or.inl ((h.moving hw).resolve_right _)
    intro hw
    rw [hcurrent] at hw
    injection hw with hw
    exact hnot ((hgone w).mpr (hw ▸ .refl))
  case current_shown =>
    intro w hw
    unfold current at hw
    rw [hstate] at hw
    contradiction
  case code?_eq =>
    intro w kind hw
    rw [hwithout.code?_eq]
    split
    · next hmem =>
      have hadded := h.grown.encloses_added (body_mem_entries hb) ((hgone w).mp hmem)
      exact (hready.tidy.code?_eq_none (h.grown.fresh hadded) kind).symm
    · next hnot => exact h.code?_eq (hw.imp_left fun hw hmem => hw (hleft hmem hnot))
  case code?_body =>
    intro w hw
    rw [hwithout.code?_eq]
    split
    · exact Or.inl rfl
    · rw [List.mem_map] at hw
      rcases hw with ⟨b, hmem, rfl⟩
      exact h.code?_body (List.mem_map_of_mem (List.mem_of_mem_filter hmem))

end Removing

/--
All that is asked of the scene is that the bubble is the current one and supposed to fade out. Its
motion has come to its end already.
-/
theorem Shows.closed (h : board.Shows built shown scene) (hready : board.Ready built)
    (hcurrent : board.current scene.store = some v)
    (hfading : (board.state scene.store).fading) :
    board.Closed built shown scene v
      (Scene.settle (board.closeFaded (.motionEnded v .completed)) scene) := by
  rcases List.mem_map.mp (h.current_shown hcurrent) with ⟨bubble, hb, rfl⟩
  have hforgotten : built.named.Extends (board.entries shown) (board.setState {} scene).named :=
    h.grown
  obtain ⟨gone, after, hremove, hencloses, hwithout, hgrown⟩ :=
    Scene.exists_remove_added hforgotten (body_mem_entries hb)
  have hafter : Scene.settle (board.closeFaded (.motionEnded bubble.body .completed)) scene =
      after := by
    have hcloses :
        Scene.settle (board.closeFaded (.motionEnded bubble.body .completed)) scene = _ :=
      settle_closeFaded hcurrent hfading rfl
    rw [hcloses]
    unfold Scene.settle
    dsimp only [Event.motionEnded]
    rw [hremove]
  have hgone {b : Bubble} (hmem : b ∈ shown) := h.gone_iff hready hb hencloses hmem
  have hbody : bubble.body ∈ gone := (hgone hb).1.mpr rfl
  have hstate : board.state after.store = {} := by
    rw [hwithout.store_eq]
    apply state_setState
  rw [hafter]
  constructor
  case kept =>
    refine ⟨h.without hready hb hencloses hcurrent hwithout hgrown hstate, ?_⟩
    intro hfading
    rw [hstate] at hfading
    contradiction
  case state_eq => exact hstate
  case names_eq => exact hwithout.names_eq
  case caption_not_mem =>
    intro b hmem heq
    rw [hwithout.mem_kinds]
    exact fun hleft => hleft.1 ((hgone hmem).2.mpr heq)
  case find?_eq_none =>
    intro kind
    rw [hwithout.find?_eq, if_pos hbody]
  case motion?_eq_none => rw [hwithout.motion?_eq, if_pos hbody]
  case bounds?_eq =>
    intro b hmem hne
    rw [hwithout.bounds?_eq, if_neg fun hleft => hne ((hgone hmem).1.mp hleft)]
    rfl

section Loop

variable {client : C → Event → Program (Reaction K C) (GalleryScene K T C X) Unit} {depth : Nat}
  {loop : EventLoop K T (Reaction K C) (Gallery X)}

theorem frame_of_not_fades (hdepth : 0 < depth) (hready : board.Ready built)
    (h : board.Kept built shown loop.scene) (hnot : ∀ v, ¬ board.Fades loop.scene now v) :
    (loop.frame (Gallery.interpreter client depth) now).2 =
      { loop with scene := (loop.scene.frame now).2 } := by
  rw [EventLoop.frame_snd]
  apply EventLoop.foldl_dispatch_of_keeps
  intro event hevent
  rcases List.mem_map.mp hevent with ⟨⟨v, phase⟩, hended, rfl⟩
  have hframe := h.toShows.frame now
  have hunheard (hnone : (loop.scene.frame now).2.handlers.code? v .motionEnded = none) :
      EventLoop.dispatch (Gallery.interpreter client depth)
        { loop with scene := (loop.scene.frame now).2 } (.motionEnded v phase) = _ :=
    Gallery.dispatch_of_none hnone
  cases h.ended_cases hended with
  | inl hold => exact hunheard (hframe.code?_moving hready hold)
  | inr hcurrent =>
    cases hframe.code?_body (hframe.current_shown hcurrent.1) with
    | inl hnone => exact hunheard hnone
    | inr hcode =>
      have hfading : ¬ (board.state (loop.scene.frame now).2.store).fading :=
        fun hfading => hnot v ⟨hcurrent.1, hfading, hcurrent.2 ▸ hended⟩
      have hheard : EventLoop.dispatch (Gallery.interpreter client depth)
          { loop with scene := (loop.scene.frame now).2 } (.motionEnded v phase) = _ :=
        Gallery.dispatch_of_some hdepth hcode rfl
      dsimp only at hheard
      rw [settle_closeFaded_of_not hfading] at hheard
      exact hheard

theorem frame_of_fades (hdepth : 0 < depth) (hready : board.Ready built)
    (h : board.Kept built shown loop.scene) (hfades : board.Fades loop.scene now v) :
    (loop.frame (Gallery.interpreter client depth) now).2 =
      { loop with
        scene := Scene.settle (board.closeFaded (.motionEnded v .completed))
          (loop.scene.frame now).2 } := by
  have hframe := h.toShows.frame now
  have hclosed := hframe.closed hready hfades.current_eq hfades.fading
  have hcode : (loop.scene.frame now).2.handlers.code? v .motionEnded =
      some (.closeFaded board) := by
    rcases h.fading hfades.fading with ⟨w, motion, hcurrent, -, -, hcode⟩
    rw [hfades.current_eq] at hcurrent
    injection hcurrent with hcurrent
    exact hcurrent ▸ hcode
  -- all but one of the ends are those of motions that were there before the board
  have hothers {w : ViewId} {phase : Phase} (hw : (w, phase) ∈ (loop.scene.frame now).1.ended)
      (hne : w ≠ v) : built.animator.isMoving w := by
    apply (h.ended_cases hw).resolve_right
    intro hcurrent
    have hsame := hcurrent.1
    rw [hfades.current_eq] at hsame
    injection hsame with hsame
    exact hne hsame.symm
  have hunheard {scene : GalleryScene K T C X} {shown' : List Bubble}
      (hshows : board.Shows built shown' scene) {events : List (ViewId × Phase)}
      (hevents : ∀ entry ∈ events,
        entry ∈ (loop.scene.frame now).1.ended ∧ entry.1 ≠ v) :
      (events.map fun entry => Event.motionEnded entry.1 entry.2).foldl
        (EventLoop.dispatch (Gallery.interpreter client depth)) { loop with scene } =
          { loop with scene } := by
    apply EventLoop.foldl_dispatch_of_keeps
    intro event hevent
    rcases List.mem_map.mp hevent with ⟨entry, hentry, rfl⟩
    have hold := hothers (hevents entry hentry).1 (hevents entry hentry).2
    exact Gallery.dispatch_of_none (hshows.code?_moving hready hold)
  have hordered : (loop.scene.frame now).1.ended.Pairwise fun a b => compare a.1 b.1 = .lt :=
    loop.scene.animator.frame_ended_ordered now loop.scene.tree
  have hne {w : ViewId} : compare w v = .lt ∨ compare v w = .lt → w ≠ v := by
    intro hlt heq
    have hself : compare v v = .eq := Std.LawfulEqOrd.compare_eq_iff_eq.mpr rfl
    rw [heq, hself] at hlt
    cases hlt <;> contradiction
  have hheard : EventLoop.dispatch (Gallery.interpreter client depth)
      { loop with scene := (loop.scene.frame now).2 } (.motionEnded v .completed) = _ :=
    Gallery.dispatch_of_some hdepth hcode rfl
  rcases List.append_of_mem hfades.ended with ⟨earlier, later, hsplit⟩
  rw [hsplit, List.pairwise_append, List.pairwise_cons] at hordered
  have hearlier (entry) (hentry : entry ∈ earlier) :
      entry ∈ (loop.scene.frame now).1.ended ∧ entry.1 ≠ v := by
    rw [hsplit]
    exact ⟨List.mem_append_left _ hentry,
      hne (Or.inl (hordered.2.2 entry hentry _ List.mem_cons_self))⟩
  have hlater (entry) (hentry : entry ∈ later) :
      entry ∈ (loop.scene.frame now).1.ended ∧ entry.1 ≠ v := by
    rw [hsplit]
    exact ⟨List.mem_append_right _ (List.mem_cons_of_mem _ hentry),
      hne (Or.inr (hordered.2.1.1 entry hentry))⟩
  rw [EventLoop.frame_snd, hsplit, List.map_append, List.foldl_append, List.map_cons,
    List.foldl_cons, hunheard hframe hearlier, hheard]
  exact hunheard hclosed.kept.toShows hlater

end Loop

end BubbleBoard

end ViewMotion
