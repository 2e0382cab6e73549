import ViewMotion.Clock.Manual
import ViewMotion.Proofs.EventLoop.Anchoring
import ViewMotion.Proofs.ExactScalar
import ViewMotion.Proofs.Gallery.Caution

/-!
This module contains what the demos of the gallery can be told to do from outside, and that nothing
dangles whatever they are told and whatever their handlers hear of.
-/

namespace ViewMotion

inductive DemoCall (K : Type) where
  | buildBox (container : ViewId)
  | layOutBox (demo : BoxDemo)
  | sendBox (demo : BoxDemo) (destination : Rect K)
  | buildBoard (container layer : ViewId)
  | presentBubble (board : BubbleBoard) (anchor : ViewId) (style : BubbleStyle K)
  | buildPanel (parent : ViewId)
  | refillPanel (panel : SavePanel)
  | appendRow (panel : SavePanel) (file : VideoFile)
  | layOutPanel (panel : SavePanel)
  | fitPanel (panel : SavePanel)
  | scrollPanel (panel : SavePanel) (offset : K)
  | buildPopup (container layer : ViewId)
  | popUp (popup : PopupButton)

namespace DemoCall

variable {K T C X : Type} [Scalar K] [Clock T]

open Scene

def perform (scene : GalleryScene K T C X) : DemoCall K → GalleryScene K T C X
  | .buildBox container => settle (BoxDemo.build container) scene
  | .layOutBox demo => settle (onTree demo.layout) scene
  | .sendBox demo destination => settle (demo.send destination) scene
  | .buildBoard container layer => settle (BubbleBoard.build container layer) scene
  | .presentBubble board anchor style => settle (board.present anchor style) scene
  | .buildPanel parent => settle (SavePanel.build parent) scene
  | .refillPanel panel => settle panel.refill scene
  | .appendRow panel file => settle (panel.append file) scene
  | .layOutPanel panel => settle (panel.onRows panel.layout) scene
  | .fitPanel panel => settle (panel.onRows panel.fit) scene
  | .scrollPanel panel offset => settle (onTree (panel.scrollTo offset)) scene
  | .buildPopup container layer => settle (PopupButton.build container layer) scene
  | .popUp popup => settle popup.popUp scene

theorem leads_perform (scene : GalleryScene K T C X) (call : DemoCall K) :
    scene.Leads (perform scene call) := by
  have led {ε α : Type} {action : GalleryM ε K T C X α} {learned : α → List ViewId}
      (h : Composed (BasicStep SamePanels) [] action learned) : scene.Leads (settle action scene) :=
    h.careful.settle scene
  cases call with
  | buildBox container => exact led (BoxDemo.composed_build container)
  | layOutBox demo => exact led (.step (.onTree demo.relays_layout))
  | sendBox demo destination => exact led (demo.composed_send destination)
  | buildBoard container layer => exact led (BubbleBoard.composed_build container layer)
  | presentBubble board anchor style => exact led (board.composed_present anchor style)
  | buildPanel parent => exact (SavePanel.composed_build parent).careful.settle scene
  | refillPanel panel => exact (panel.works_sparing.refill []).careful.settle scene
  | appendRow panel file => exact (panel.works_sparing.append file).careful.settle scene
  | layOutPanel panel => exact led (SavePanel.composed_arranging panel.relays_layout)
  | fitPanel panel => exact led (SavePanel.composed_arranging panel.relays_fit)
  | scrollPanel panel offset => exact led (.step (.onTree (panel.relays_scrollTo offset)))
  | buildPopup container layer => exact led (PopupButton.composed_build container layer)
  | popUp popup => exact popup.composed_popUp.careful.settle scene

end DemoCall

namespace Gallery

/--
Nothing dangles at any moment of a run of careful steps, also within handlers, whatever their
programs are. Nor does it in an event loop whose handlers are careful in any case. What the demos
are told to do comes to careful requests, and their handlers take careful steps until they are left.
-/
theorem nothing_dangles :
    (∀ {K T A X : Type} [Scalar K] [Clock T]
      (program : A → Event → Program A (Scene K T A X) Unit) (names : ViewNames) (clock : T)
      (defaults : MotionDefaults) (store : X) (machine : Machine A (Scene K T A X)),
        Machine.Leads program ⟨.new names clock defaults store, []⟩ machine →
          machine.state.NeverDangles) ∧
      (∀ {K T A X : Type} [Scalar K] [Clock T] {interpreter : Interpreter A (Scene K T A X)},
        interpreter.Careful → ∀ (names : ViewNames) (clock : T) (defaults : MotionDefaults)
          (store : X) (loop : EventLoop K T A X),
            (EventLoop.new names clock defaults store).Leads interpreter loop →
              loop.scene.NeverDangles ∧ ∀ handler event steps,
                ((Machine.enter interpreter.program handler event loop.scene []).after
                  interpreter.program steps).state.NeverDangles) ∧
      ∀ {K T C X : Type} [Scalar K] [Clock T]
        (client : C → Event → Program (Reaction K C) (GalleryScene K T C X) Unit),
          (∀ (scene : GalleryScene K T C X) (call : DemoCall K),
            scene.Leads (call.perform scene)) ∧
          (∀ reaction, (∀ code, reaction ≠ .client code) → ∀ id event scene callers, ∃ after,
            (Machine.enter (Reaction.program client) ⟨id, reaction⟩ event scene callers).Leads
              (Reaction.program client) ⟨after, callers⟩) ∧
          ((∀ code event scene, (client code event).Careful scene) →
            ∀ depth, (interpreter client depth).Careful) := by
  constructor
  · intro K T A X _ _ program names clock defaults store machine hleads
    have hanchored := hleads.state.anchored (Scene.new_anchored names clock defaults store)
    exact hanchored.neverDangles
  constructor
  · intro K T A X _ _ interpreter hcareful names clock defaults store loop hleads
    have hanchored := (hleads.scene hcareful).anchored
      (Scene.new_anchored names clock defaults store)
    refine ⟨hanchored.neverDangles, ?_⟩
    intro handler event steps
    have hentered := Machine.enter_careful hcareful handler event loop.scene
    exact ((hentered.after hcareful steps).1.state.anchored hanchored).neverDangles
  · intro K T C X _ _ client
    refine ⟨DemoCall.leads_perform, ?_, interpreter_careful⟩
    intro reaction hdemo id event scene callers
    obtain ⟨hcareful, hcalls⟩ := Reaction.program_careful client hdemo event scene
    exact Machine.exists_leads hcalls hcareful id callers

theorem nothing_dangles_after_fade :
    let client (code : Empty) (_ : Event) :
        Program (Reaction Rat Empty) (GalleryScene Rat ManualClock Empty Unit) Unit := nomatch code
    let interpreter := Gallery.interpreter client 1
    let start : EventLoop Rat ManualClock (Reaction Rat Empty) (Gallery Unit) :=
      .new .counted .atEpoch {} (.new ())
    let built := { start with scene := (DemoCall.buildBoard ⟨0⟩ ⟨0⟩).perform start.scene }
    let shown := built.dispatch interpreter { source := ⟨4⟩, kind := .pressed }
    let last : Instant := ⟨4000000000⟩
    let moved := { shown with scene := (shown.scene.frame last).2 }
    let faded := (shown.frame interpreter last).2
    let closeFaded : Reaction Rat Empty := .closeFaded ⟨⟨1⟩, ⟨2⟩, ⟨3⟩, ⟨4⟩, ⟨0⟩⟩
    (shown.scene.frame last).1 = ⟨1, [(⟨5⟩, .completed)]⟩ ∧
      ¬ faded.scene.tree.contains ⟨5⟩ ∧ faded.scene.NeverDangles ∧
      (∀ handler event steps,
        ((Machine.enter interpreter.program handler event moved.scene []).after
          interpreter.program steps).state.NeverDangles) ∧
      ∃ after : GalleryScene Rat ManualClock Empty Unit,
        (Machine.enter (Reaction.program client) ⟨⟨4⟩, closeFaded⟩ (.motionEnded ⟨5⟩ .completed)
          moved.scene []).Leads (Reaction.program client) ⟨after, []⟩ ∧ after.NeverDangles := by
  intro client interpreter start built shown last moved faded closeFaded
  have hcareful : interpreter.Careful := by
    apply (nothing_dangles.2.2 client).2.2
    exact fun code => nomatch code
  have hbuilt : start.Leads interpreter built :=
    EventLoop.leads_of_scene ((nothing_dangles.2.2 client).1 start.scene _)
  have hshown : start.Leads interpreter shown := hbuilt.tail (.dispatch _)
  have hfaded := hshown.tail (.frame last)
  have hmoved : start.Leads interpreter moved :=
    hshown.trans (EventLoop.leads_of_scene (shown.scene.leads_frame last))
  have hidle : Machine.Leads (Reaction.program client) ⟨start.scene, []⟩ ⟨moved.scene, []⟩ :=
    Machine.leads_of_scene (hmoved.scene hcareful)
  obtain ⟨after, hafter⟩ := (nothing_dangles.2.2 client).2.1 closeFaded (by simp [closeFaded]) ⟨4⟩
    (.motionEnded ⟨5⟩ .completed) moved.scene []
  have hrun := (hidle.tail (.enter ⟨⟨4⟩, closeFaded⟩ (.motionEnded ⟨5⟩ .completed) _)).trans hafter
  refine ⟨by decide +kernel, by decide +kernel, ?_, ?_, after, hafter, ?_⟩
  · exact (nothing_dangles.2.1 hcareful .counted .atEpoch {} (.new ()) faded hfaded).1
  · exact (nothing_dangles.2.1 hcareful .counted .atEpoch {} (.new ()) moved hmoved).2
  · exact nothing_dangles.1 (Reaction.program client) .counted .atEpoch {} (.new ()) _ hrun

end Gallery

end ViewMotion
