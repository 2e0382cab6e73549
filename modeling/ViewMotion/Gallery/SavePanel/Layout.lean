import ViewMotion.Gallery.Basic
import ViewMotion.Gallery.Layout

/-!
This module contains the layout and the scrolling of a save panel. The rows form a grid of four
columns in the content, of which the viewport shows as much as the panel has room for.
-/

namespace ViewMotion

/--
There is a gap in front of each column. A column without a width of its own is as wide as the
widest of its cells.
-/
structure Column (K : Type) where
  gap : K
  width : Option K
  cell : Row → ViewId

variable {K : Type} [Scalar K]

namespace Column

def all : List (Column K) := [
  ⟨12, some 19, Row.icon⟩,
  ⟨3, some 120, Row.name⟩,
  ⟨12, none, Row.size⟩,
  ⟨12, none, Row.link⟩
]

def lastGap : K := 12

def widthIn (column : Column K) (tree : ViewTree K) (rows : List Row) : K :=
  match column.width with
  | some width => width
  | none =>
    let cells := rows.map column.cell
    cells.foldl (fun width cell => Scalar.max width (tree.naturalSize cell).width) 0

end Column

namespace SavePanel

def heightLimit : K := 420

def border : K := 1

def sideMargin : K := 12

def lineMargin : K := 3

def scrollBar : K := 15

def rowHeight (tree : ViewTree K) (rows : List Row) : K :=
  let cells := rows.flatMap Row.cells
  cells.foldl (fun height cell => Scalar.max height (tree.naturalSize cell).height) 0

def gridSize (tree : ViewTree K) (rows : List Row) : Size K :=
  let columns : List (Column K) := Column.all
  let inner := columns.foldl (fun x column => x + (column.gap + column.widthIn tree rows)) 0
  let rowAndMargin := rowHeight tree rows + lineMargin
  ⟨inner + Column.lastGap, lineMargin + (rows.length : K) * rowAndMargin⟩

def barSize (panel : SavePanel) (tree : ViewTree K) : Size K :=
  let title := tree.naturalSize panel.title
  let saveAll := tree.naturalSize panel.saveAll
  ⟨title.width + saveAll.width + sideMargin * 2,
    Scalar.max title.height saveAll.height + lineMargin * 2⟩

def naturalSize (panel : SavePanel) (tree : ViewTree K) (rows : List Row) : Size K :=
  let grid := gridSize tree rows
  let height := grid.height + (panel.barSize tree).height
  let inner : Size K :=
    -- a panel that would be too high leaves room for a scroll bar
    if heightLimit < height then ⟨grid.width + scrollBar, heightLimit⟩
    else ⟨grid.width, height⟩
  ⟨inner.width + border * 2, inner.height + border * 2⟩

def scrolled (panel : SavePanel) (tree : ViewTree K) : K :=
  match tree.kind? panel.viewport with
  | some (.scrollView offset) => offset
  | _ => 0

def scrollLimit (panel : SavePanel) (tree : ViewTree K) : K :=
  Scalar.max 0 (height panel.content - height panel.viewport)
where
  height (v : ViewId) : K := (tree.bounds? v).elim 0 fun bounds => bounds.size.height

/--
Moves the content up by `offset` or as far as it goes. A viewport of another kind counts as
missing, and has to be painted again nevertheless.
-/
def scrollTo (panel : SavePanel) (offset : K) : EStateM ViewError (ViewTree K) Unit := do
  let tree ← get
  let offset := Scalar.min (Scalar.max 0 offset) (panel.scrollLimit tree)
  let changed := tree.modifyKind? panel.viewport (withOffset offset)
  set (← Layout.require panel.viewport changed)
  if !(tree.kind? panel.viewport).any isScrollView then throw (.missing panel.viewport)
  let bounds ← Layout.require panel.content (tree.bounds? panel.content)
  Layout.place panel.content (bounds.movedTo ⟨bounds.origin.x, -offset⟩)
where
  isScrollView : ViewKind K → Bool
    | .scrollView _ => true
    | _ => false
  withOffset (offset : K) : ViewKind K → ViewKind K
    | .scrollView _ => .scrollView offset
    | kind => kind

def placeRow (row : Row) (y height : K) :
    K → List (Column K × K) → EStateM ViewError (ViewTree K) Unit
  | _, [] => pure ()
  | x, (column, width) :: rest => do
    let x := x + column.gap
    let natural := (← get).naturalSize (column.cell row)
    Layout.place (column.cell row) (.ofXYWH x y (Scalar.min natural.width width) height)
    placeRow row y height (x + width) rest

def placeRows (columns : List (Column K × K)) (height : K) :
    K → List Row → EStateM ViewError (ViewTree K) Unit
  | _, [] => pure ()
  | y, row :: rest => do
    placeRow row y height 0 columns
    placeRows columns height (y + (height + lineMargin)) rest

def layoutGrid (panel : SavePanel) (rows : List Row) : EStateM ViewError (ViewTree K) Unit := do
  let tree ← get
  let columns := Column.all.map fun column => (column, column.widthIn tree rows)
  let y := (tree.bounds? panel.content).elim 0 fun bounds => bounds.origin.y
  Layout.place panel.content ⟨⟨0, y⟩, gridSize tree rows⟩
  placeRows columns (rowHeight tree rows) lineMargin rows

def layout (panel : SavePanel) (rows : List Row) : EStateM ViewError (ViewTree K) Unit := do
  let tree ← get
  let bounds ← Layout.require panel.outer (tree.bounds? panel.outer)
  let width := bounds.size.width
  let barHeight := (panel.barSize tree).height
  let title := tree.naturalSize panel.title
  let saveAll := tree.naturalSize panel.saveAll
  Layout.place panel.bar (.ofXYWH 0 0 width barHeight)
  Layout.place panel.title ⟨⟨sideMargin, lineMargin⟩, title⟩
  Layout.place panel.saveAll ⟨⟨width - saveAll.width - sideMargin, lineMargin⟩, saveAll⟩
  Layout.place panel.viewport <| .ofXYWH border (barHeight + border)
    (Scalar.max 0 (width - border * 2))
    (Scalar.max 0 (bounds.size.height - barHeight - border * 2))
  panel.layoutGrid rows
  panel.scrollTo (panel.scrolled (← get))

def fit (panel : SavePanel) (rows : List Row) : EStateM ViewError (ViewTree K) Unit := do
  let tree ← get
  let bounds ← Layout.require panel.outer (tree.bounds? panel.outer)
  Layout.place panel.outer ⟨bounds.origin, panel.naturalSize tree rows⟩
  panel.layout rows

end SavePanel

end ViewMotion
