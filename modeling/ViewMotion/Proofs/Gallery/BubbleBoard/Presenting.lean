import ViewMotion.Proofs.Gallery.BubbleBoard.Hanging

/-!
This module contains what becomes of a board when a bubble is presented. The bubble comes on top of
the others and is the current one from then on, and all that was there before stays where it is.
-/

namespace ViewMotion.BubbleBoard

variable {K T C X : Type} {board : BubbleBoard} [Scalar K]
  {built scene after : GalleryScene K T C X} {shown : List Bubble} {bubble : Bubble}

/--
The bubble is new, and it is the current one. No view that had its name before has been moved.
-/
structure Presented (board : BubbleBoard) (built : GalleryScene K T C X) (shown : List Bubble)
    (scene : GalleryScene K T C X) (bubble : Bubble) (after : GalleryScene K T C X) : Prop where
  kept : board.Kept built (shown ++ [bubble]) after
  current_eq : board.current after.store = some bubble.body
  body_fresh : ¬ scene.names.Issued bubble.body
  caption_fresh : ¬ scene.names.Issued bubble.caption
  issued {v : ViewId} (hv : scene.names.Issued v) : after.names.Issued v
  bounds?_eq {v : ViewId} (hv : scene.names.Issued v) :
    after.tree.bounds? v = scene.tree.bounds? v

variable {anchor : ViewId} {style : BubbleStyle K} {bounds : Rect K}

namespace Hung

variable (h : board.Hung anchor style bounds scene bubble after)

include h

theorem body_fresh : ¬ scene.names.Issued bubble.body :=
  h.extended.fresh List.mem_cons_self

theorem caption_fresh : ¬ scene.names.Issued bubble.caption :=
  h.extended.fresh (List.mem_cons_of_mem _ (List.mem_singleton_self _))

theorem presented (hnext : board.Kept built (shown ++ [bubble]) after) :
    board.Presented built shown scene bubble after where
  kept := hnext
  current_eq := h.current_eq
  body_fresh := h.body_fresh
  caption_fresh := h.caption_fresh
  issued hv := (h.issued_iff _).mpr (Or.inr hv)
  bounds?_eq hv := by
    apply h.bounds?_eq
    · exact fun heq => h.body_fresh (heq ▸ hv)
    · exact fun heq => h.caption_fresh (heq ▸ hv)

theorem shows (hkept : board.Kept built shown scene) (hready : board.Ready built)
    (hcode : ∀ v kind, after.handlers.code? v kind = scene.handlers.code? v kind ∨
      v = bubble.body ∧ kind = .motionEnded ∧
        after.handlers.code? v kind = some (.closeFaded board)) :
    board.Shows built (shown ++ [bubble]) after := by
  have hshown (v : ViewId) :
      v ∈ (shown ++ [bubble]).map Bubble.body ↔ v ∈ shown.map Bubble.body ∨ v = bubble.body := by
    simp
  have hnew : bubble.body ∉ shown.map Bubble.body :=
    fun hmem => h.body_fresh (hkept.grown.sound.issued (hkept.body_mem hmem))
  constructor
  case grown =>
    rw [entries_append]
    apply hkept.grown.trans
    unfold entries
    rw [List.flatMap_singleton]
    exact h.extended
  case moving =>
    intro v hv
    by_cases hbody : v = bubble.body
    · rw [hbody]
      exact Or.inr h.current_eq
    · rw [Animator.isMoving_eq_isSome, h.motion?_eq hbody] at hv
      unfold otherMotion? at hv
      split at hv
      · contradiction
      · next hother =>
        rw [← Animator.isMoving_eq_isSome] at hv
        exact Or.inl ((hkept.moving hv).resolve_right hother)
  case current_shown =>
    intro v hv
    rw [h.current_eq] at hv
    injection hv with hv
    exact (hshown v).mpr (Or.inr hv.symm)
  case code?_eq =>
    intro v kind hv
    cases hcode v kind with
    | inl hold =>
      rw [hold]
      exact hkept.code?_eq (hv.imp_left fun hv hmem => hv ((hshown v).mpr (Or.inl hmem)))
    | inr hclose =>
      cases hv with
      | inl hv => exact absurd ((hshown v).mpr (Or.inr hclose.1)) hv
      | inr hv => exact absurd hclose.2.1 hv
  case code?_body =>
    intro v hv
    cases hcode v .motionEnded with
    | inl hold =>
      rw [hold]
      cases (hshown v).mp hv with
      | inl hv => exact hkept.code?_body hv
      | inr hv =>
        -- nobody can have waited for the end of a bubble that was not there
        have hissued : ¬ built.names.Issued bubble.body :=
          fun hissued => h.body_fresh (hkept.grown.issued hissued)
        rw [hv, hkept.code?_eq (Or.inl hnew), hready.tidy.code?_eq_none hissued]
        exact Or.inl rfl
    | inr hclose => exact Or.inr hclose.2.2

end Hung

theorem Loose.presented (h : board.Loose anchor style bounds scene bubble after)
    (hkept : board.Kept built shown scene) (hready : board.Ready built) :
    board.Presented built shown scene bubble after := by
  apply h.toHung.presented
  constructor
  case toShows =>
    apply h.shows hkept hready
    intro v kind
    rw [h.handlers_eq]
    exact Or.inl rfl
  case fading =>
    intro hfading
    rw [h.not_fading] at hfading
    contradiction

theorem Moving.presented (h : board.Moving anchor style bounds scene bubble after)
    (hkept : board.Kept built shown scene) (hready : board.Ready built) :
    board.Presented built shown scene bubble after := by
  apply h.toHung.presented
  constructor
  case toShows =>
    apply h.shows hkept hready
    intro v kind
    rw [h.code?_eq]
    split
    · next hclose => exact Or.inr ⟨hclose.2.1.symm, hclose.2.2.symm, rfl⟩
    · exact Or.inl rfl
  case fading =>
    intro hfading
    rw [h.fading_eq] at hfading
    have hdestination := h.destination?_eq
    unfold BubbleStyle.destination Animator.destination? at hdestination
    rw [if_pos hfading, Option.map_eq_some_iff] at hdestination
    obtain ⟨motion, hmotion, hdestination⟩ := hdestination
    refine ⟨bubble.body, motion, h.current_eq, hmotion, ?_, ?_⟩
    · rw [hdestination]
      rfl
    · rw [h.code?_eq, if_pos ⟨hfading, rfl, rfl⟩]

theorem present_ends [Clock T] (h : board.Kept built shown scene) (hready : board.Ready built)
    {anchor : ViewId} (hanchor : anchor ∈ scene.tree.kinds) (style : BubbleStyle K) :
    Ends (board.present anchor style) scene
      (fun _ after => ∃ bubble, board.Presented built shown scene bubble after)
      fun _ after => ∃ bubble, board.Presented built shown scene bubble after := by
  have hlayer : board.layer ∈ scene.tree.kinds := h.grown.mem_of_base hready.layer_mem
  apply (present_cases h.grown.sound board anchor style).mono
  · intro body after ⟨bounds, caption, _, _, _, _, hmoving⟩
    exact ⟨⟨body, caption⟩, hmoving.presented h hready⟩
  · intro e after hfailed
    rcases hfailed with hrefused | ⟨bounds, bubble, -, -, hloose, -⟩
    · cases hrefused.lacking with
      | anchor hmissing => exact absurd hanchor hmissing
      | layer _ hmissing => exact absurd hlayer hmissing
    · exact ⟨bubble, hloose.presented h hready⟩

end ViewMotion.BubbleBoard
