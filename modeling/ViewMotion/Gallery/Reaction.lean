import ViewMotion.Gallery.BoxDemo
import ViewMotion.Gallery.BubbleBoard
import ViewMotion.Gallery.PopupButton

/-!
This module contains the programs of the handlers of the gallery. A handler that fails halfway
leaves what it has done so far, and tells nobody.
-/

namespace ViewMotion

variable {K T C X : Type} [Scalar K] [Clock T]

namespace Reaction

def program (client : C → Event → Program (Reaction K C) (GalleryScene K T C X) Unit) :
    Reaction K C → Event → Program (Reaction K C) (GalleryScene K T C X) Unit
  | .sendBox demo, _ => quietly (demo.send BoxDemo.destination)
  | .presentBubble board style, event => quietly (board.present event.source style)
  | .closeFaded board, event => quietly (board.closeFaded event)
  | .followLink panel, event => quietly (panel.followLink event.source)
  | .popUp popup, _ => quietly popup.popUp
  | .client code, event => client code event
where
  quietly {ε α : Type} (action : GalleryM ε K T C X α) :
      Program (Reaction K C) (GalleryScene K T C X) Unit :=
    discard (Program.attempt action)

end Reaction

namespace Gallery

def interpreter (client : C → Event → Program (Reaction K C) (GalleryScene K T C X) Unit)
    (depth : Nat) : Interpreter (Reaction K C) (GalleryScene K T C X) where
  program := Reaction.program client
  depth

end Gallery

end ViewMotion
