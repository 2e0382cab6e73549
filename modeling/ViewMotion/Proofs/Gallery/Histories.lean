import ViewMotion.Proofs.Gallery.Anchoring
import ViewMotion.Proofs.Gallery.Dispatch
import ViewMotion.Proofs.Gallery.PopupButton.Succession

/-!
This module contains that a history goes on with whatever the demos are told to do from outside, and
with whatever their handlers make of an event.
-/

namespace ViewMotion

open Scene

variable {K T C X : Type} [Scalar K] [Clock T] {late : Set ViewId} {panels : List SavePanel}
  {scene : GalleryScene K T C X}

namespace History

theorem settle_build (h : History late panels scene) (parent : ViewId) :
    ∃ built, History late (built ++ panels) (settle (SavePanel.build parent) scene) := by
  unfold settle
  cases hbuild : SavePanel.build parent scene with
  | ok panel after => exact ⟨[panel], h.built hbuild⟩
  | error e after => exact ⟨[], h.notBuilt hbuild⟩

theorem settle_popUp (h : History late panels scene) (popup : PopupButton) :
    ∃ built, History late (built ++ panels) (settle popup.popUp scene) := by
  unfold settle
  cases hpopUp : popup.popUp scene with
  | ok panel after => exact ⟨[panel], h.poppedUp hpopUp⟩
  | error e after => exact ⟨[], h.notPoppedUp hpopUp⟩

end History

/--
Nobody has a panel but those that have been built.
-/
def DemoCall.Knows (panels : List SavePanel) : DemoCall K → Prop
  | .refillPanel panel | .appendRow panel _ => panel ∈ panels
  | _ => True

def Reaction.Knows (panels : List SavePanel) : Reaction K C → Prop
  | .followLink panel => panel ∈ panels
  | _ => True

/--
A history goes on with whatever a demo is told to do from outside.
-/
theorem History.call (h : History late panels scene) {call : DemoCall K}
    (hknown : call.Knows panels) :
    ∃ built, History late (built ++ panels) (call.perform scene) := by
  have led {ε α : Type} {action : GalleryM ε K T C X α} {learned : α → List ViewId}
      (hcomposed : Composed (BasicStep SamePanels) [] action learned) :
      ∃ built, History late (built ++ panels) (settle action scene) :=
    ⟨[], h.led hcomposed⟩
  cases call with
  | buildBox container => exact led (BoxDemo.composed_build container)
  | layOutBox demo => exact led (.step (.onTree demo.relays_layout))
  | sendBox demo destination => exact led (demo.composed_send destination)
  | buildBoard container layer => exact led (BubbleBoard.composed_build container layer)
  | presentBubble board anchor style => exact led (board.composed_present anchor style)
  | buildPanel parent => exact h.settle_build parent
  | refillPanel panel => exact ⟨[], h.refilled hknown⟩
  | appendRow panel file => exact ⟨[], h.appended hknown file⟩
  | layOutPanel panel => exact led (SavePanel.composed_arranging panel.relays_layout)
  | fitPanel panel => exact led (SavePanel.composed_arranging panel.relays_fit)
  | scrollPanel panel offset => exact led (.step (.onTree (panel.relays_scrollTo offset)))
  | buildPopup container layer => exact led (PopupButton.composed_build container layer)
  | popUp popup => exact h.settle_popUp popup

/--
A history goes on with whatever a handler of a demo does.
-/
theorem History.react (h : History late panels scene)
    (client : C → Event → Program (Reaction K C) (GalleryScene K T C X) Unit)
    {reaction : Reaction K C} (hdemo : ∀ code, reaction ≠ .client code)
    (hknown : reaction.Knows panels) (event : Event)
    (call : Handler (Reaction K C) → Event → Turn (GalleryScene K T C X) →
      Bool × Turn (GalleryScene K T C X)) (active : List HandlerId) :
    ∃ built, History late (built ++ panels)
      ((Reaction.program client reaction event).exec call ⟨scene, active⟩).2.state := by
  have settled {ε α : Type} {action : GalleryM ε K T C X α}
      (hgoes : ∃ built, History late (built ++ panels) (settle action scene)) :
      ∃ built, History late (built ++ panels)
        ((Reaction.program.quietly action).exec call ⟨scene, active⟩).2.state := by
    rw [Reaction.exec_quietly]
    exact hgoes
  cases reaction with
  | sendBox demo => exact settled ⟨[], h.led (demo.composed_send BoxDemo.destination)⟩
  | presentBubble board style =>
    exact settled ⟨[], h.led (board.composed_present event.source style)⟩
  | closeFaded board => exact settled ⟨[], h.led (board.composed_closeFaded event)⟩
  | followLink panel => exact settled ⟨[], h.followed hknown event.source⟩
  | popUp popup => exact settled (h.settle_popUp popup)
  | client code => exact absurd rfl (hdemo code)

end ViewMotion
