import ViewMotion.Scene

/-!
This module contains what the demos of the gallery are made of. There is a box that moves, there
are bubbles that grow and fade, and there is a panel that lists videos to be saved.

A demo is given by the names of its views. What it remembers from one event to the next is kept in
the `Gallery` under one of these names.
-/

namespace ViewMotion

inductive GalleryError (K : Type) where
  | view (error : ViewError)
  | motion (error : MotionError K)
deriving DecidableEq, Repr

structure BoxDemo where
  field : ViewId
  box : ViewId
  button : ViewId
deriving DecidableEq, Repr

inductive Arrow where
  | none
  | topLeft
  | bottomRight
  | leftTop
deriving DecidableEq, Repr

structure BubbleStyle (K : Type) where
  caption : String
  color : Color K
  arrow : Arrow
  fadesIn : Bool
  fadesOut : Bool
deriving DecidableEq, Repr

structure BubbleBoard where
  first : ViewId
  second : ViewId
  third : ViewId
  fourth : ViewId
  layer : ViewId
deriving DecidableEq, Repr

/--
The current bubble is the one that was presented last, until it has faded out.
-/
structure BoardState where
  current : Option ViewId := none
  fading : Bool := false
deriving DecidableEq, Repr, Inhabited

structure Row where
  group : Nat
  icon : ViewId
  name : ViewId
  size : ViewId
  link : ViewId
deriving DecidableEq, Repr

namespace Row

def cells (row : Row) : List ViewId := [row.icon, row.name, row.size, row.link]

end Row

structure GroupSupply where
  upcoming : Nat := 0
deriving DecidableEq, Repr, Inhabited

namespace GroupSupply

def take (groups : GroupSupply) : Nat × GroupSupply := (groups.upcoming, ⟨groups.upcoming + 1⟩)

end GroupSupply

/--
A bar with two links lies above a viewport, whose content holds the rows.
-/
structure SavePanel where
  outer : ViewId
  bar : ViewId
  title : ViewId
  saveAll : ViewId
  viewport : ViewId
  content : ViewId
deriving DecidableEq, Repr

structure RowList where
  rows : List Row := []
  groups : GroupSupply := {}
deriving DecidableEq, Repr, Inhabited

structure PopupButton where
  button : ViewId
  layer : ViewId
deriving DecidableEq, Repr

inductive Reaction (K C : Type) where
  | sendBox (demo : BoxDemo)
  | presentBubble (board : BubbleBoard) (style : BubbleStyle K)
  | closeFaded (board : BubbleBoard)
  | followLink (panel : SavePanel)
  | popUp (popup : PopupButton)
  | client (code : C)
deriving Repr

/--
States are found under the first button of a board, under the outermost view of a panel, and under
the button of a popup.
-/
structure Gallery (X : Type) where
  boards : Std.ExtTreeMap ViewId BoardState
  panels : Std.ExtTreeMap ViewId RowList
  popups : Std.ExtTreeMap ViewId SavePanel
  client : X

namespace Gallery

def new {X : Type} (client : X) : Gallery X := ⟨∅, ∅, ∅, client⟩

end Gallery

abbrev GalleryScene (K T C X : Type) := Scene K T (Reaction K C) (Gallery X)

abbrev GalleryM (ε K T C X : Type) := EStateM ε (GalleryScene K T C X)

namespace GalleryM

variable {K T C X α : Type}

def ofView (action : GalleryM ViewError K T C X α) : GalleryM (GalleryError K) K T C X α :=
  EStateM.adaptExcept .view action

def ofMotion (action : GalleryM (MotionError K) K T C X α) :
    GalleryM (GalleryError K) K T C X α :=
  EStateM.adaptExcept .motion action

end GalleryM

end ViewMotion
