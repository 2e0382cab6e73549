import ViewMotion.Gallery.BoxDemo
import ViewMotion.Gallery.SavePanel.Layout
import ViewMotion.Proofs.Scene.Caution

/-!
This module contains what the layouts of the gallery do, whichever views there are: some of them
get other bounds, and a viewport gets another offset.
-/

namespace ViewMotion

variable {K ε α : Type} [Scalar K]

namespace Layout

section Closure

theorem relays_pure (result : α) : Relays (pure result : EStateM ε (ViewTree K) α) :=
  along_pure (fun _ => .refl) result

theorem relays_throw (e : ε) : Relays (throw e : EStateM ε (ViewTree K) α) :=
  along_throw (fun _ => .refl) e

theorem relays_get : Relays (get : EStateM ε (ViewTree K) (ViewTree K)) :=
  along_get fun _ => .refl

theorem Relays.bind {β : Type} {layout : EStateM ε (ViewTree K) α}
    {next : α → EStateM ε (ViewTree K) β} (h : Relays layout)
    (hnext : ∀ result, Relays (next result)) : Relays (layout >>= next) :=
  Along.bind h hnext fun _ _ _ hrelaid hrelaid' => hrelaid.trans hrelaid'

theorem relays_forM {β : Type} {layout : β → EStateM ε (ViewTree K) PUnit} (xs : List β)
    (h : ∀ x, Relays (layout x)) : Relays (xs.forM layout) :=
  Along.forM xs h (fun _ => .refl) fun _ _ _ hrelaid hrelaid' => hrelaid.trans hrelaid'

end Closure

theorem relays_place (v : ViewId) (bounds : Rect K) :
    Relays (place v bounds : EStateM ε (ViewTree K) Unit) :=
  fun _ => .single (Or.inl ⟨v, bounds, rfl⟩)

theorem relays_require (v : ViewId) (found : Option α) :
    Relays (require v found : EStateM ViewError (ViewTree K) α) := by
  cases found with
  | none => exact relays_throw _
  | some result => exact relays_pure result

theorem relays_fit (v : ViewId) : Relays (fit v : EStateM ViewError (ViewTree K) Unit) := by
  unfold fit
  apply relays_get.bind
  intro tree
  apply (relays_require v _).bind
  exact fun _ => relays_place v _

theorem relays_stretch (parent : ViewId) :
    Relays (stretch parent : EStateM ViewError (ViewTree K) Unit) := by
  unfold stretch
  apply relays_get.bind
  intro tree
  apply (relays_require parent _).bind
  exact fun _ => relays_forM _ fun v => relays_place v _

theorem relays_lineUp (parent : ViewId) (spacing : K) :
    Relays (lineUp parent spacing : EStateM ViewError (ViewTree K) Unit) := by
  have go (x : K) (vs : List ViewId) :
      Relays (lineUp.go spacing x vs : EStateM ViewError (ViewTree K) Unit) := by
    induction vs generalizing x with
    | nil => exact relays_pure ()
    | cons v vs ih =>
      unfold lineUp.go
      apply relays_get.bind
      intro tree
      apply (relays_require v _).bind
      intro kind
      apply (relays_place v _).bind
      exact fun _ => ih _
  unfold lineUp
  apply relays_get.bind
  intro tree
  apply (relays_require parent _).bind
  exact fun _ => go 0 _

end Layout

open Layout

theorem BoxDemo.relays_layout (demo : BoxDemo) :
    Relays (demo.layout : EStateM ViewError (ViewTree K) Unit) := by
  unfold layout
  apply relays_get.bind
  intro tree
  apply (relays_require demo.field _).bind
  intro container
  apply (relays_stretch container).bind
  intro _
  apply (relays_fit demo.button).bind
  intro _
  apply relays_get.bind
  intro tree
  apply (relays_require demo.field _).bind
  exact fun _ => relays_place demo.box _

namespace SavePanel

theorem relays_scrollTo (panel : SavePanel) (offset : K) : Relays (panel.scrollTo offset) := by
  intro tree
  unfold scrollTo
  apply Ends.get_bind
  dsimp only
  cases hchanged : tree.modifyKind? panel.viewport (scrollTo.withOffset
    (Scalar.min (Scalar.max 0 offset) (panel.scrollLimit tree))) with
  | none => exact .refl
  | some changed =>
    have hrelaid : tree.Relaid changed := .single (Or.inr ⟨_, _, hchanged⟩)
    have hrest (y : K) : Relays (do
        if !(tree.kind? panel.viewport).any scrollTo.isScrollView then
          throw (.missing panel.viewport)
        let bounds ← require panel.content (tree.bounds? panel.content)
        place panel.content (bounds.movedTo ⟨bounds.origin.x, y⟩)
        : EStateM ViewError (ViewTree K) Unit) := by
      dsimp only
      split
      · exact relays_throw _
      · exact (relays_require panel.content _).bind fun _ => relays_place panel.content _
    apply Ends.bind_ok rfl
    apply Ends.bind
    apply (hrest _ changed).mono
    · exact fun _ _ hafter => hrelaid.trans hafter
    · exact fun _ _ hafter => hrelaid.trans hafter

theorem relays_placeRow (row : Row) (y height x : K) (columns : List (Column K × K)) :
    Relays (placeRow row y height x columns) := by
  induction columns generalizing x with
  | nil => exact relays_pure ()
  | cons entry columns ih =>
    unfold placeRow
    apply relays_get.bind
    intro tree
    exact (relays_place _ _).bind fun _ => ih _

theorem relays_placeRows (columns : List (Column K × K)) (height y : K) (rows : List Row) :
    Relays (placeRows columns height y rows) := by
  induction rows generalizing y with
  | nil => exact relays_pure ()
  | cons row rows ih =>
    unfold placeRows
    exact (relays_placeRow row y height 0 columns).bind fun _ => ih _

theorem relays_layoutGrid (panel : SavePanel) (rows : List Row) :
    Relays (panel.layoutGrid rows : EStateM ViewError (ViewTree K) Unit) := by
  unfold layoutGrid
  apply relays_get.bind
  intro tree
  apply (relays_place panel.content _).bind
  exact fun _ => relays_placeRows _ _ _ rows

theorem relays_layout (panel : SavePanel) (rows : List Row) :
    Relays (panel.layout rows : EStateM ViewError (ViewTree K) Unit) := by
  unfold layout
  apply relays_get.bind
  intro tree
  apply (relays_require panel.outer _).bind
  intro bounds
  apply (relays_place panel.bar _).bind
  intro _
  apply (relays_place panel.title _).bind
  intro _
  apply (relays_place panel.saveAll _).bind
  intro _
  apply (relays_place panel.viewport _).bind
  intro _
  apply (relays_layoutGrid panel rows).bind
  intro _
  apply relays_get.bind
  exact fun _ => relays_scrollTo panel _

theorem relays_fit (panel : SavePanel) (rows : List Row) :
    Relays (panel.fit rows : EStateM ViewError (ViewTree K) Unit) := by
  unfold fit
  apply relays_get.bind
  intro tree
  apply (relays_require panel.outer _).bind
  intro bounds
  apply (relays_place panel.outer _).bind
  exact fun _ => relays_layout panel rows

end SavePanel

end ViewMotion
