import ViewMotion.Gallery.SavePanel.Layout
import ViewMotion.Gallery.SavePanel.ShownSize
import ViewMotion.Gallery.SavePanel.VideoFile

/-!
This module contains how a save panel and its rows are made, and what the links of the panel do.
-/

namespace ViewMotion.SavePanel

variable {K T C X ε α : Type}

def list (panel : SavePanel) (gallery : Gallery X) : RowList :=
  (gallery.panels[panel.outer]?).getD {}

def setList (panel : SavePanel) (list : RowList) (scene : GalleryScene K T C X) :
    GalleryScene K T C X :=
  { scene with store.panels := scene.store.panels.insert panel.outer list }

def rows (panel : SavePanel) (gallery : Gallery X) : List Row := (panel.list gallery).rows

def setRows (panel : SavePanel) (rows : List Row) (scene : GalleryScene K T C X) :
    GalleryScene K T C X :=
  panel.setList { panel.list scene.store with rows } scene

def takeGroup (panel : SavePanel) (scene : GalleryScene K T C X) : Nat × GalleryScene K T C X :=
  let list := panel.list scene.store
  let (group, groups) := list.groups.take
  (group, panel.setList { list with groups } scene)

def watch (panel : SavePanel) (link : ViewId) : GalleryScene K T C X → GalleryScene K T C X :=
  Scene.register link .linkClicked (.followLink panel)

def onRows (panel : SavePanel) (action : List Row → EStateM ε (ViewTree K) α) :
    GalleryM ε K T C X α := do
  let scene ← get
  Scene.onTree (action (panel.rows scene.store))

variable [Scalar K]

def append (panel : SavePanel) (file : VideoFile) : GalleryM ViewError K T C X Row := do
  let icon ← Scene.add panel.content (.image "folder_open")
  let name ← Scene.add panel.content (.label file.name)
  let size ← Scene.add panel.content (.label (describeSize file.length))
  let link ← Scene.add panel.content (.link "Save" LinkRole.save.code)
  let group ← modifyGet panel.takeGroup
  let row := { group, icon, name, size, link }
  row.cells.forM fun cell => Scene.setGroup cell group
  modify (panel.watch link)
  -- the new row has no place yet
  modify fun scene => panel.setRows (panel.rows scene.store ++ [row]) scene
  return row

variable [Clock T]

def refill (panel : SavePanel) : GalleryM ViewError K T C X Unit := do
  Scene.clear panel.content
  modify (panel.setRows [])
  Scene.onTree (panel.scrollTo 0)
  VideoFile.listed.forM fun file => discard (panel.append file)
  panel.onRows panel.layoutGrid

def build (parent : ViewId) : GalleryM ViewError K T C X SavePanel := do
  let outer ← Scene.add parent .container
  let bar ← Scene.add outer .container
  let title ← Scene.add bar (.link "Resource list" LinkRole.setting.code)
  let saveAll ← Scene.add bar (.link "Save all" LinkRole.saveAll.code)
  let viewport ← Scene.add outer (.scrollView 0)
  let content ← Scene.add viewport .container
  let panel := { outer, bar, title, saveAll, viewport, content }
  modify (panel.setList {})
  modify (panel.watch title)
  modify (panel.watch saveAll)
  panel.refill
  return panel

def roleOf? (tree : ViewTree K) (link : ViewId) : Option LinkRole :=
  match tree.kind? link with
  | some (.link _ code) => LinkRole.ofCode? code
  | _ => none

/--
Every link but the one that saves all adds a row, and leaves the content scrolled to where it was.
-/
def followLink (panel : SavePanel) (link : ViewId) : GalleryM ViewError K T C X Unit := do
  let scene ← get
  match roleOf? scene.tree link with
  | some .saveAll =>
    panel.refill
    panel.onRows panel.fit
  | some .save | some .copyLink | some .setting | none =>
    let offset := panel.scrolled scene.tree
    let _ ← panel.append .added
    panel.onRows panel.layoutGrid
    panel.onRows panel.fit
    if offset != 0 then Scene.onTree (panel.scrollTo offset)

end ViewMotion.SavePanel
