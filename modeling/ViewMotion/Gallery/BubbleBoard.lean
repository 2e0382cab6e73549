import ViewMotion.Gallery.Basic
import ViewMotion.Gallery.Layout

/-!
This module contains the demo of bubbles that grow, fade in or fade out when their buttons are
pressed. Fading is done with bounds alone. A bubble that fades in grows out of a point at its
anchor, and one that fades out shrinks back into it.
-/

namespace ViewMotion

namespace BubbleStyle

variable {K : Type} [Scalar K]

def round : BubbleStyle K where
  caption := "Round"
  color := .ofARGB 0xFFC1B1E1
  arrow := .none
  fadesIn := false
  fadesOut := false

def arrowed : BubbleStyle K where
  caption := "Arrow"
  color := .gray
  arrow := .topLeft
  fadesIn := false
  fadesOut := false

def fadingIn : BubbleStyle K where
  caption := "FadeIn"
  color := .yellow
  arrow := .bottomRight
  fadesIn := true
  fadesOut := false

def fadingOut : BubbleStyle K where
  caption := "FadeOut"
  color := .white
  arrow := .leftTop
  fadesIn := false
  fadesOut := true

def all : List (BubbleStyle K) := [round, arrowed, fadingIn, fadingOut]

end BubbleStyle

namespace BubbleBoard

variable {K T C X : Type}

section Bounds

variable [Scalar K]

def bubbleSize : Size K := ⟨320, 240⟩

def grown : Rect K := .ofXYWH 10 10 800 600

def shown (anchor : Rect K) : Rect K := ⟨anchor.bottomLeft, bubbleSize⟩

def hidden (anchor : Rect K) : Rect K := ⟨anchor.bottomLeft, .zero⟩

end Bounds

def duration : Duration := .ofMilliseconds 4000

def buttons (board : BubbleBoard) : List ViewId :=
  [board.first, board.second, board.third, board.fourth]

def state (board : BubbleBoard) (gallery : Gallery X) : BoardState :=
  (gallery.boards[board.first]?).getD {}

def setState (board : BubbleBoard) (state : BoardState) (scene : GalleryScene K T C X) :
    GalleryScene K T C X :=
  { scene with store.boards := scene.store.boards.insert board.first state }

def current (board : BubbleBoard) (gallery : Gallery X) : Option ViewId :=
  (board.state gallery).current

def build [Scalar K] (container layer : ViewId) : GalleryM ViewError K T C X BubbleBoard := do
  let first ← button .round
  let second ← button .arrowed
  let third ← button .fadingIn
  let fourth ← button .fadingOut
  Scene.onTree (Layout.lineUp container 1)
  let board := { first, second, third, fourth, layer }
  modify (board.setState {})
  (board.buttons.zip BubbleStyle.all).forM fun (v, style) =>
    modify (Scene.register v .pressed (.presentBubble board style))
  return board
where
  button (style : BubbleStyle K) : GalleryM ViewError K T C X ViewId :=
    Scene.add container (.button style.caption)

def freeze [Clock T] (board : BubbleBoard) (scene : GalleryScene K T C X) :
    GalleryScene K T C X :=
  match board.current scene.store with
  | none => board.setState {} scene
  | some previous => board.setState {} (scene.stop previous).2

/--
A bubble is the current one as soon as it is there, even if it cannot be moved then.
-/
def present [Scalar K] [Clock T] (board : BubbleBoard) (anchor : ViewId) (style : BubbleStyle K) :
    GalleryM (GalleryError K) K T C X ViewId := do
  modify board.freeze
  let scene ← get
  let bounds ← GalleryM.ofView <| Scene.onTree <|
    Layout.require anchor (scene.tree.bounds? anchor)
  let bubble ← GalleryM.ofView <| Scene.add board.layer (.bubble style.color (some anchor))
  let caption ← GalleryM.ofView <| Scene.add bubble (.label style.caption)
  place caption ⟨⟨0, 0⟩, bubbleSize⟩
  modify (board.setState { current := some bubble })
  if style.fadesIn then
    place bubble (hidden bounds)
    move bubble (shown bounds)
  else
    place bubble (shown bounds)
    move bubble grown
  if style.fadesOut then
    move bubble (hidden bounds)
    modify (board.setState { current := some bubble, fading := true })
    modify (Scene.register bubble .motionEnded (.closeFaded board))
  return bubble
where
  place (v : ViewId) (bounds : Rect K) : GalleryM (GalleryError K) K T C X Unit :=
    Scene.onTree (Layout.place v bounds)
  move (v : ViewId) (bounds : Rect K) : GalleryM (GalleryError K) K T C X Unit :=
    GalleryM.ofMotion (Scene.start v bounds duration)

/--
Only the current bubble is removed once it has faded out.
-/
def closeFaded [Clock T] (board : BubbleBoard) (event : Event) :
    GalleryM ViewError K T C X Unit := do
  let state := board.state (← get).store
  if state.current = some event.source ∧ state.fading ∧ event.phase = some .completed then
    modify (board.setState {})
    Scene.remove event.source

end BubbleBoard

end ViewMotion
