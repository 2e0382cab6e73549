import ViewMotion.Proofs.Gallery.BubbleBoard.Kept

/-!
This module contains what holds for a board of bubbles that has just been built.
-/

namespace ViewMotion.BubbleBoard

variable {K T C X : Type} {board : BubbleBoard} {scene : GalleryScene K T C X} {v : ViewId}

def Presents (board : BubbleBoard) (v : ViewId) (scene : GalleryScene K T C X) : Prop :=
  ∃ style, scene.handlers.code? v .pressed = some (.presentBubble board style)

theorem presents_register (h : v = w ∨ board.Presents v scene) (style : BubbleStyle K) :
    board.Presents v (scene.register w .pressed (.presentBubble board style)) := by
  unfold Presents
  rw [Scene.register_code?]
  by_cases heq : w = v
  · rw [if_pos ⟨heq, rfl⟩]
    exact ⟨style, rfl⟩
  · rw [if_neg fun hsame => heq hsame.1]
    exact h.resolve_left fun hsame => heq hsame.symm

/--
What is kept from the building of a board on.
-/
structure Built (board : BubbleBoard) (scene built : GalleryScene K T C X) : Prop where
  tidy : built.Tidy
  mem_of_mem {v : ViewId} (hv : v ∈ scene.tree.kinds) : v ∈ built.tree.kinds
  buttons_mem : ∀ v ∈ board.buttons, v ∈ built.tree.kinds
  state_eq : board.state built.store = {}

theorem forM_register_ends {built : GalleryScene K T C X} (h : board.Built scene built)
    {styled : List (ViewId × BubbleStyle K)} (hstyled : ∀ entry ∈ styled, entry.1 ∈ board.buttons)
    (heard : List ViewId) (hheard : ∀ v ∈ heard, board.Presents v built) :
    Ends (styled.forM fun (v, style) =>
        modify (Scene.register v .pressed (.presentBubble board style)) :
          GalleryM ViewError K T C X Unit) built
      (fun _ after => board.Built scene after ∧
        ∀ v ∈ styled.map Prod.fst ++ heard, board.Presents v after) fun _ _ => True := by
  induction styled generalizing built heard with
  | nil => exact ⟨h, hheard⟩
  | cons entry styled ih =>
    have hentry := hstyled entry List.mem_cons_self
    apply Ends.forM_cons
    have hregistered : board.Built scene
        (built.register entry.1 .pressed (.presentBubble board entry.2)) := {
      tidy := h.tidy.register (h.tidy.sound.issued (h.buttons_mem _ hentry)) _ _
      mem_of_mem := h.mem_of_mem
      buttons_mem := h.buttons_mem
      state_eq := h.state_eq
    }
    have hnow : ∀ v ∈ entry.1 :: heard,
        board.Presents v (built.register entry.1 .pressed (.presentBubble board entry.2)) := by
      intro v hv
      exact presents_register ((List.mem_cons.mp hv).imp_right (hheard v)) entry.2
    apply (ih hregistered (fun e he => hstyled e (List.mem_cons_of_mem entry he)) _ hnow).mono
    · intro _ after hafter
      refine ⟨hafter.1, ?_⟩
      intro v hv
      apply hafter.2
      simpa [or_left_comm] using hv
    · exact fun _ _ _ => trivial

variable [Scalar K]

theorem build_ends (h : scene.Tidy) (container layer : ViewId) :
    Ends (build container layer) scene
      (fun board built => board.Built scene built ∧ board.layer = layer ∧
        ∀ v ∈ board.buttons, board.Presents v built) fun _ _ => True := by
  unfold build build.button
  by_cases hcontainer : container ∈ scene.tree.kinds
  · apply (Scene.add_grown h.sound hcontainer _).bind_ends
    intro first scene₁ ⟨hgrown₁, _⟩
    apply (hgrown₁.add ((hgrown₁.mem_kinds _).mpr (Or.inr hcontainer)) _).bind_ends
    intro second scene₂ ⟨hgrown₂, _⟩
    apply (hgrown₂.add ((hgrown₂.mem_kinds _).mpr (Or.inr hcontainer)) _).bind_ends
    intro third scene₃ ⟨hgrown₃, _⟩
    apply (hgrown₃.add ((hgrown₃.mem_kinds _).mpr (Or.inr hcontainer)) _).bind_ends
    intro fourth scene₄ ⟨hgrown, _⟩
    apply Ends.bind
    apply Scene.onTree_ends
    apply (Layout.arranges_lineUp container 1 scene₄.tree).mono
    · intro _ tree hmoved
      apply Ends.modify_bind
      have hsound : NamedTree.Sound ⟨tree, scene₄.names⟩ :=
        (hgrown.sound.extends.moved hmoved).sound
      have hmem (v : ViewId) (hv : v ∈ [first, second, third, fourth] ∨ v ∈ scene.tree.kinds) :
          v ∈ tree.kinds := by
        rw [hmoved.kinds_eq, hgrown.mem_kinds]
        exact hv
      have hbuilt : Built ⟨first, second, third, fourth, layer⟩ scene
          (setState ⟨first, second, third, fourth, layer⟩ {} { scene₄ with tree }) := {
        tidy := ((h.grown hgrown).of_tree hsound).with_store _
        mem_of_mem := fun hv => hmem _ (Or.inr hv)
        buttons_mem := fun v hv => hmem v (Or.inl hv)
        state_eq := state_setState _ _
      }
      apply Ends.bind
      apply (forM_register_ends hbuilt _ [] _).mono
      · intro _ after hafter
        exact ⟨hafter.1, rfl, hafter.2⟩
      · exact fun _ _ _ => trivial
      · intro entry hentry
        exact (List.of_mem_zip hentry).1
      · exact fun _ hv => absurd hv List.not_mem_nil
    · exact fun _ _ _ => trivial
  · apply Ends.bind
    exact Ends.of_error (Scene.add_error hcontainer _) trivial

end ViewMotion.BubbleBoard
