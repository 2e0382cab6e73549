import ViewMotion.Gallery.Basic
import ViewMotion.Gallery.Layout

/-!
This module contains the demo of a box that moves away when its button is pressed.
-/

namespace ViewMotion.BoxDemo

variable {K T C X : Type} [Scalar K]

def boxSize : Size K := ⟨30, 20⟩

def boxColor : Color K := .rgb (100 / 255) 1 (100 / 255)

def destination : Rect K := .ofXYWH 300 300 100 100

def duration : Duration := .ofMilliseconds 1000

def layout (demo : BoxDemo) : EStateM ViewError (ViewTree K) Unit := do
  let tree ← get
  let container ← Layout.require demo.field (tree.superview? demo.field)
  Layout.stretch container
  Layout.fit demo.button
  let tree ← get
  let bounds ← Layout.require demo.field (tree.bounds? demo.field)
  -- the natural size of the box does not matter
  let width := Scalar.max 0 (bounds.size.width - 100)
  Layout.place demo.box (.ofXYWH 10 100 width 30)

def build (container : ViewId) : GalleryM ViewError K T C X BoxDemo := do
  let field ← Scene.add container .container
  let box ← Scene.add field (.fill boxColor boxSize)
  let button ← Scene.add container (.button "Move")
  let demo := { field, box, button }
  Scene.onTree demo.layout
  modify (Scene.register button .pressed (.sendBox demo))
  return demo

def send [Clock T] (demo : BoxDemo) (destination : Rect K) :
    GalleryM (MotionError K) K T C X Unit :=
  Scene.start demo.box destination duration

end ViewMotion.BoxDemo
