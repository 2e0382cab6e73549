import ViewMotion.Clock.Manual
import ViewMotion.Proofs.Gallery.BubbleBoard.Hanging
import ViewMotion.Proofs.Motion.Validity

/-!
This module contains when a bubble cannot be presented. The point of its anchor from which it hangs
need not be finite, not even if the bounds of the anchor are.
-/

namespace ViewMotion.BubbleBoard

section Destinations

variable (anchor : Rect Float)

theorem grown_isValid : (grown : Rect Float).isValid := by
  decide +kernel

theorem shown_isValid_iff : (shown anchor).isValid ↔ anchor.bottomLeft.IsFinite := by
  apply Rect.isValid_iff_isFinite
  decide +kernel

theorem hidden_isValid_iff : (hidden anchor).isValid ↔ anchor.bottomLeft.IsFinite := by
  apply Rect.isValid_iff_isFinite
  decide +kernel

end Destinations

variable {T C X : Type} {board : BubbleBoard} {style : BubbleStyle Float} {bounds : Rect Float}
  {scene after : GalleryScene Float T C X} {bubble : Bubble} {e : GalleryError Float}

theorem Stuck.outcome (h : board.Stuck style bounds scene bubble after e) :
    ¬ bounds.bottomLeft.IsFinite ∧
      if style.fadesIn then
        e = .motion (.invalid (shown bounds)) ∧
          ∀ v, after.animator.motion? v = board.otherMotion? scene v
      else
        style.fadesOut ∧ e = .motion (.invalid (hidden bounds)) ∧
          after.animator.destination? bubble.body = some grown := by
  cases h with
  | still hinvalid hmotion =>
    unfold BubbleStyle.firstDestination at hinvalid ⊢
    split at hinvalid
    · next hfades =>
      rw [if_pos hfades, if_pos hfades]
      refine ⟨?_, rfl, hmotion⟩
      rw [← shown_isValid_iff, hinvalid]
      exact Bool.false_ne_true
    · rw [grown_isValid] at hinvalid
      contradiction
  | moving hvalid hfades hinvalid hmotion =>
    have hnone : ¬ bounds.bottomLeft.IsFinite := by
      rw [← hidden_isValid_iff, hinvalid]
      exact Bool.false_ne_true
    refine ⟨hnone, ?_⟩
    unfold BubbleStyle.firstDestination at hvalid hmotion
    split
    · next hfades' =>
      rw [if_pos hfades'] at hvalid
      exact absurd ((shown_isValid_iff bounds).mp hvalid) hnone
    · next hstays =>
      rw [if_neg hstays] at hmotion
      exact ⟨hfades, rfl, hmotion⟩

/--
A bubble is presented if and only if there are its anchor and its layer, and it need not come out of
a point that is not finite, or shrink into it. A bubble that would have to do so stays where it was
made, and the board takes it for the current one. If it was only to fade out, it even keeps the
motion that should have come before.
-/
theorem present_outcomes [Clock T] (names : ViewNames) (clock : T)
    (defaults : MotionDefaults) (gallery : Gallery X)
    (requests : List (SceneRequest Float T (Reaction Float C) (Gallery X))) (board : BubbleBoard)
    (anchor : ViewId) (style : BubbleStyle Float) :
    let scene := (Scene.new names clock defaults gallery).run requests
    Ends (board.present anchor style) scene
      (fun body after => ∃ bounds caption, scene.tree.bounds? anchor = some bounds ∧
        board.layer ∈ scene.tree.kinds ∧
        (style.fadesIn ∨ style.fadesOut → bounds.bottomLeft.IsFinite) ∧
        board.Moving anchor style bounds scene ⟨body, caption⟩ after)
      fun e after => board.Refused anchor scene e after ∨
        ∃ bounds bubble, scene.tree.bounds? anchor = some bounds ∧
          board.layer ∈ scene.tree.kinds ∧ ¬ bounds.bottomLeft.IsFinite ∧
          board.Loose anchor style bounds scene bubble after ∧
          if style.fadesIn then
            e = .motion (.invalid (shown bounds)) ∧
              ∀ v, after.animator.motion? v = board.otherMotion? scene v
          else
            style.fadesOut ∧ e = .motion (.invalid (hidden bounds)) ∧
              after.animator.destination? bubble.body = some grown := by
  intro scene
  have hreachable : scene.Reachable := ⟨names, clock, defaults, gallery, requests, rfl⟩
  apply (present_cases hreachable.sound board anchor style).mono
  · intro body after ⟨bounds, caption, hbounds, hlayer, hvalid, hvalid', hmoving⟩
    refine ⟨bounds, caption, hbounds, hlayer, ?_, hmoving⟩
    rintro (hfades | hfades)
    · unfold BubbleStyle.firstDestination at hvalid
      rw [if_pos hfades] at hvalid
      exact (shown_isValid_iff bounds).mp hvalid
    · exact (hidden_isValid_iff bounds).mp (hvalid' hfades)
  · intro e after hfailed
    apply hfailed.imp_right
    intro ⟨bounds, bubble, hbounds, hlayer, hloose, hstuck⟩
    obtain ⟨hnone, houtcome⟩ := hstuck.outcome
    exact ⟨bounds, bubble, hbounds, hlayer, hnone, hloose, houtcome⟩

/--
The lower edge of the anchor lies beyond the largest number.
-/
theorem present_leaves_unmovable_bubble :
    let start : GalleryScene Float ManualClock Empty Unit := .new .counted .atEpoch {} (.new ())
    let layered := start.run [.onTree (.insert ⟨0⟩ .container), .onTree (.insert ⟨0⟩ .container)]
    let board : BubbleBoard := ⟨⟨3⟩, ⟨4⟩, ⟨5⟩, ⟨6⟩, ⟨2⟩⟩
    let anchor : Rect Float := .ofXYWH 0 1e308 10 1e308
    let placed := (Scene.settle (build ⟨1⟩ ⟨2⟩) layered).run [.onTree (.place ⟨3⟩ anchor)]
    let after := Scene.settle (board.present ⟨3⟩ .fadingIn) placed
    (build ⟨1⟩ ⟨2⟩).run' layered = some board ∧ anchor.isValid ∧
      board.current placed.store = none ∧ placed.tree.kinds.size = 7 ∧
      (board.present ⟨3⟩ .fadingIn).run' placed = none ∧
      board.current after.store = some ⟨7⟩ ∧ after.tree.kinds.size = 9 ∧
      (board.present ⟨3⟩ .fadingOut).run' placed = none ∧
      (Scene.settle (board.present ⟨3⟩ .fadingOut) placed).animator.isMoving ⟨7⟩ := by
  decide +kernel

end ViewMotion.BubbleBoard
