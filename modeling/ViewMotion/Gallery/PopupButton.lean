import ViewMotion.Gallery.SavePanel.Rows

/-!
This module contains the demo of a button that pops up a save panel underneath itself.
-/

namespace ViewMotion.PopupButton

variable {K T C X : Type}

def panel? (popup : PopupButton) (gallery : Gallery X) : Option SavePanel :=
  gallery.popups[popup.button]?

def setPanel (popup : PopupButton) (panel : SavePanel) (scene : GalleryScene K T C X) :
    GalleryScene K T C X :=
  { scene with store.popups := scene.store.popups.insert popup.button panel }

def forgetPanel (popup : PopupButton) (scene : GalleryScene K T C X) : GalleryScene K T C X :=
  { scene with store.popups := scene.store.popups.erase popup.button }

variable [Scalar K]

def build (container layer : ViewId) : GalleryM ViewError K T C X PopupButton := do
  let button ← Scene.add container (.button "Save")
  Scene.onTree (Layout.fit button)
  let popup := { button, layer }
  modify (Scene.register button .pressed (.popUp popup))
  return popup

variable [Clock T]

def dismiss (popup : PopupButton) (scene : GalleryScene K T C X) : GalleryScene K T C X :=
  match popup.panel? scene.store with
  | none => scene
  | some previous =>
    match Scene.remove previous.outer (popup.forgetPanel scene) with
    | .ok _ scene => scene
    -- somebody else has removed the panel already
    | .error _ scene => scene

def popUp (popup : PopupButton) : GalleryM ViewError K T C X SavePanel := do
  modify popup.dismiss
  let scene ← get
  let anchor ← Scene.onTree <| Layout.require popup.button (scene.tree.bounds? popup.button)
  let panel ← SavePanel.build popup.layer
  Scene.onTree (Layout.place panel.outer ⟨anchor.bottomLeft, .zero⟩)
  panel.onRows panel.fit
  modify (popup.setPanel panel)
  return panel

end ViewMotion.PopupButton
