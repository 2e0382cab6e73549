import Mathlib.Data.List.Pairwise
import ViewMotion.Gallery.BubbleBoard
import ViewMotion.Proofs.Gallery.Dispatch
import ViewMotion.Proofs.Scene.Landing
import ViewMotion.Proofs.ViewTree.Arrangement

/-!
This module contains what holds for a board of bubbles at any time: what the board remembers, the
motions, the handlers and the tree fit together.
-/

namespace ViewMotion

/--
A bubble that is shown, with the caption inside.
-/
structure Bubble where
  body : ViewId
  caption : ViewId

namespace Bubble

def entries (layer : ViewId) (bubble : Bubble) : List (ViewId × ViewId) :=
  [(bubble.body, layer), (bubble.caption, bubble.body)]

end Bubble

namespace BubbleBoard

variable {K T C X : Type} {board : BubbleBoard}

def entries (board : BubbleBoard) (shown : List Bubble) : List (ViewId × ViewId) :=
  shown.flatMap (Bubble.entries board.layer)

section Entries

variable {shown : List Bubble} {bubble bubble' : Bubble} {v : ViewId}

theorem entries_append (shown others : List Bubble) :
    board.entries (shown ++ others) = board.entries shown ++ board.entries others := by
  unfold entries
  rw [List.flatMap_append]

theorem entries_map_fst (shown : List Bubble) :
    (board.entries shown).map Prod.fst = shown.flatMap fun b => [b.body, b.caption] := by
  unfold entries
  rw [List.map_flatMap]
  rfl

theorem mem_entries_iff : v ∈ (board.entries shown).map Prod.fst ↔
    ∃ b ∈ shown, v = b.body ∨ v = b.caption := by
  rw [entries_map_fst, List.mem_flatMap]
  simp

theorem body_mem_entries (h : bubble ∈ shown) :
    bubble.body ∈ (board.entries shown).map Prod.fst :=
  mem_entries_iff.mpr ⟨bubble, h, Or.inl rfl⟩

theorem body_added (hv : v ∈ shown.map Bubble.body) :
    v ∈ (board.entries shown).map Prod.fst := by
  rcases List.mem_map.mp hv with ⟨b, hb, rfl⟩
  exact body_mem_entries hb

theorem caption_mem_entries (h : bubble ∈ shown) :
    bubble.caption ∈ (board.entries shown).map Prod.fst :=
  mem_entries_iff.mpr ⟨bubble, h, Or.inr rfl⟩

section Distinct

variable (hnodup : ((board.entries shown).map Prod.fst).Nodup)

include hnodup

theorem body_ne_caption_of_nodup (h : bubble ∈ shown) : bubble.body ≠ bubble.caption := by
  rw [entries_map_fst, List.nodup_flatMap] at hnodup
  have hown := hnodup.1 bubble h
  rw [List.nodup_cons, List.mem_singleton] at hown
  exact hown.1

theorem eq_of_nodup (h : bubble ∈ shown) (h' : bubble' ∈ shown)
    (hv : v = bubble.body ∨ v = bubble.caption) (hv' : v = bubble'.body ∨ v = bubble'.caption) :
    bubble = bubble' := by
  rw [entries_map_fst, List.nodup_flatMap] at hnodup
  by_contra hne
  have hsymm : Std.Symm (Function.onFun List.Disjoint fun b : Bubble => [b.body, b.caption]) :=
    ⟨fun _ _ hdisjoint _ hv hv' => hdisjoint hv' hv⟩
  have hdisjoint : List.Disjoint [bubble.body, bubble.caption] [bubble'.body, bubble'.caption] :=
    hnodup.2.forall h h' hne
  apply @hdisjoint v
  · simpa using hv
  · simpa using hv'

theorem body_ne_caption (h : bubble ∈ shown) (h' : bubble' ∈ shown) :
    bubble.body ≠ bubble'.caption := by
  intro heq
  have hsame := eq_of_nodup hnodup h h' (Or.inl rfl) (Or.inr heq)
  apply body_ne_caption_of_nodup hnodup h
  rw [heq, hsame]

end Distinct

theorem entries_filter {gone : List ViewId} {closed : ViewId}
    (h : ∀ b ∈ shown, (b.body ∈ gone ↔ b.body = closed) ∧ (b.caption ∈ gone ↔ b.body = closed)) :
    (board.entries shown).filter (·.1 ∉ gone) =
      board.entries (shown.filter (·.body ≠ closed)) := by
  induction shown with
  | nil => rfl
  | cons b shown ih =>
    have hb := h b List.mem_cons_self
    have hrest := ih fun b' hb' => h b' (List.mem_cons_of_mem b hb')
    change ([(b.body, board.layer), (b.caption, b.body)] ++ board.entries shown).filter _ = _
    rw [List.filter_append, hrest, List.filter_cons]
    by_cases hclosed : b.body = closed
    · have hbody := hb.1.mpr hclosed
      have hcaption := hb.2.mpr hclosed
      simp [hclosed, hcaption, hclosed ▸ hbody]
    · have hbody : b.body ∉ gone := fun hmem => hclosed (hb.1.mp hmem)
      have hcaption : b.caption ∉ gone := fun hmem => hclosed (hb.2.mp hmem)
      simp [hclosed, hbody, hcaption, entries, Bubble.entries]

theorem below_layer (hlayer : board.layer ∉ (board.entries shown).map Prod.fst) :
    below (board.entries shown) board.layer = shown.map Bubble.body := by
  induction shown with
  | nil => rfl
  | cons b shown ih =>
    have hbody : b.body ≠ board.layer := by
      intro heq
      apply hlayer
      rw [← heq]
      apply body_mem_entries List.mem_cons_self
    have hrest : board.layer ∉ (board.entries shown).map Prod.fst := by
      rw [mem_entries_iff] at hlayer ⊢
      intro ⟨b', hb', hv⟩
      exact hlayer ⟨b', List.mem_cons_of_mem b hb', hv⟩
    change below ((b.body, board.layer) :: (b.caption, b.body) :: board.entries shown) _ = _
    rw [below_cons, if_pos rfl, below_cons, if_neg hbody, ih hrest, List.map_cons]

theorem mem_below_body_iff (hnodup : ((board.entries shown).map Prod.fst).Nodup)
    (hlayer : board.layer ∉ (board.entries shown).map Prod.fst) (h : bubble ∈ shown) :
    v ∈ below (board.entries shown) bubble.body ↔ v = bubble.caption := by
  rw [mem_below_iff]
  unfold entries
  rw [List.mem_flatMap]
  constructor
  · intro ⟨b, hb, hentry⟩
    simp only [Bubble.entries, List.mem_cons, Prod.mk.injEq, List.not_mem_nil, or_false] at hentry
    rcases hentry with ⟨-, heq⟩ | ⟨hv, heq⟩
    · exact absurd (heq ▸ body_mem_entries h) hlayer
    · rw [eq_of_nodup hnodup h hb (Or.inl rfl) (Or.inl heq)]
      exact hv
  · intro hv
    refine ⟨bubble, h, ?_⟩
    simp [Bubble.entries, hv]

theorem below_caption (hnodup : ((board.entries shown).map Prod.fst).Nodup)
    (hlayer : board.layer ∉ (board.entries shown).map Prod.fst) (h : bubble ∈ shown) :
    below (board.entries shown) bubble.caption = [] := by
  rw [List.eq_nil_iff_forall_not_mem]
  intro v hv
  rw [mem_below_iff] at hv
  unfold entries at hv
  rw [List.mem_flatMap] at hv
  rcases hv with ⟨b, hb, hentry⟩
  simp only [Bubble.entries, List.mem_cons, Prod.mk.injEq, List.not_mem_nil, or_false] at hentry
  rcases hentry with ⟨-, heq⟩ | ⟨-, heq⟩
  · exact hlayer (heq ▸ caption_mem_entries h)
  · exact body_ne_caption hnodup hb h heq.symm

end Entries

theorem state_setState (state : BoardState) (scene : GalleryScene K T C X) :
    board.state (board.setState state scene).store = state := by
  unfold BubbleBoard.state setState
  rw [Std.ExtTreeMap.getElem?_insert_self]
  rfl

/--
The board with its buttons is there, and no bubble has been presented yet. Nobody waits for the end
of a motion that is under way elsewhere.
-/
structure Ready (board : BubbleBoard) (scene : GalleryScene K T C X) : Prop where
  tidy : scene.Tidy
  layer_mem : board.layer ∈ scene.tree.kinds
  layer_empty : scene.tree.subviews board.layer = []
  buttons_mem : ∀ v ∈ board.buttons, v ∈ scene.tree.kinds
  presents : ∀ v ∈ board.buttons, ∃ style,
    scene.handlers.code? v .pressed = some (.presentBubble board style)
  state_eq : board.state scene.store = {}
  unheard : ∀ v, scene.animator.isMoving v → scene.handlers.code? v .motionEnded = none

/--
The bubbles that are `shown` are all that has been added since the board was built.
-/
structure Shows (board : BubbleBoard) (built : GalleryScene K T C X) (shown : List Bubble)
    (scene : GalleryScene K T C X) : Prop where
  grown : built.named.Extends (board.entries shown) scene.named
  moving {v : ViewId} (hv : scene.animator.isMoving v) :
    built.animator.isMoving v ∨ board.current scene.store = some v
  current_shown {v : ViewId} (hv : board.current scene.store = some v) :
    v ∈ shown.map Bubble.body
  code?_eq {v : ViewId} {kind : EventKind}
    (h : v ∉ shown.map Bubble.body ∨ kind ≠ .motionEnded) :
    scene.handlers.code? v kind = built.handlers.code? v kind
  code?_body {v : ViewId} (hv : v ∈ shown.map Bubble.body) :
    scene.handlers.code? v .motionEnded = none ∨
      scene.handlers.code? v .motionEnded = some (.closeFaded board)

/--
A board that waits for its current bubble to fade out will hear of it.
-/
structure Kept [Scalar K] (board : BubbleBoard) (built : GalleryScene K T C X) (shown : List Bubble)
    (scene : GalleryScene K T C X) : Prop extends board.Shows built shown scene where
  fading (h : (board.state scene.store).fading) : ∃ v motion,
    board.current scene.store = some v ∧ scene.animator.motion? v = some motion ∧
      motion.destination.size = .zero ∧
      scene.handlers.code? v .motionEnded = some (.closeFaded board)

variable {built scene : GalleryScene K T C X} {shown : List Bubble} {bubble : Bubble}

theorem Ready.kept [Scalar K] (h : board.Ready built) : board.Kept built [] built where
  grown := h.tidy.sound.extends
  moving hv := Or.inl hv
  current_shown {v} hv := by
    unfold current at hv
    rw [h.state_eq] at hv
    contradiction
  fading hfading := by
    rw [h.state_eq] at hfading
    contradiction
  code?_eq _ := rfl
  code?_body hv := absurd hv List.not_mem_nil

namespace Shows

variable (h : board.Shows built shown scene)

include h

theorem body_mem {v : ViewId} (hv : v ∈ shown.map Bubble.body) : v ∈ scene.tree.kinds :=
  h.grown.mem_of_added (body_added hv)

theorem body_fresh {v : ViewId} (hv : v ∈ shown.map Bubble.body) : ¬ built.names.Issued v :=
  h.grown.fresh (body_added hv)

section Subviews

variable (hready : board.Ready built)

include hready

theorem layer_not_added : board.layer ∉ (board.entries shown).map Prod.fst :=
  h.grown.not_added_of_mem hready.layer_mem

theorem subviews_layer : scene.tree.subviews board.layer = shown.map Bubble.body := by
  have hlayer := h.grown.subviews_eq board.layer
  rw [below_layer (h.layer_not_added hready)] at hlayer
  have hempty : built.named.tree.subviews board.layer = [] := hready.layer_empty
  rw [hempty, List.nil_append] at hlayer
  exact hlayer

theorem subviews_body (hb : bubble ∈ shown) :
    scene.tree.subviews bubble.body = [bubble.caption] := by
  have hbody : scene.tree.subviews bubble.body = _ :=
    h.grown.subviews_added (body_mem_entries hb)
  have hnodup : (scene.tree.subviews bubble.body).Nodup :=
    h.grown.sound.wellFormed.subviews_nodup bubble.body
  rw [← List.perm_singleton, List.perm_ext_iff_of_nodup hnodup (List.nodup_singleton _)]
  intro v
  rw [hbody, mem_below_body_iff h.grown.nodup (h.layer_not_added hready) hb, List.mem_singleton]

theorem encloses_body_iff (hb : bubble ∈ shown) (v : ViewId) :
    scene.tree.Encloses bubble.body v ↔ v = bubble.body ∨ v = bubble.caption := by
  have hbody := h.subviews_body hready hb
  have hcaption : scene.tree.subviews bubble.caption = [] := by
    rw [← below_caption h.grown.nodup (h.layer_not_added hready) hb]
    exact h.grown.subviews_added (caption_mem_entries hb)
  constructor
  · intro henc
    induction henc with
    | refl => exact Or.inl rfl
    | @tail x y _ hy ih =>
      cases ih with
      | inl hx =>
        rw [hx, hbody, List.mem_singleton] at hy
        exact Or.inr hy
      | inr hx =>
        rw [hx, hcaption] at hy
        contradiction
  · intro hv
    cases hv with
    | inl hv =>
      rw [hv]
      exact .refl
    | inr hv =>
      apply Relation.ReflTransGen.single
      rw [hbody, hv]
      exact List.mem_singleton_self _

end Subviews

end Shows

end BubbleBoard

end ViewMotion
