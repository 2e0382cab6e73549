import Mathlib.Data.Nat.Cast.Defs
import ViewMotion.Proofs.Gallery.SavePanel.Arrangement
import ViewMotion.Proofs.ViewTree.Placement

/-!
This module contains the layout of a save panel as a plan: which of its views gets which bounds,
before the viewport is scrolled. A plan depends on the room that the views ask for, on the size of
the panel and on how far the content is from the top.
-/

namespace ViewMotion.SavePanel

variable {K : Type} [Scalar K] {panel : SavePanel} {rows : List Row} {tree : ViewTree K}

def inside (panel : SavePanel) (rows : List Row) : List ViewId :=
  [panel.bar, panel.title, panel.saveAll, panel.viewport, panel.content] ++
    rows.flatMap Row.cells

def top (panel : SavePanel) (tree : ViewTree K) : K :=
  (tree.bounds? panel.content).elim 0 fun bounds => bounds.origin.y

theorem outer_ne_content (hnodup : (panel.views rows).Nodup) : panel.outer ≠ panel.content := by
  simp only [views, List.cons_append, List.nodup_cons, List.mem_cons, not_or] at hnodup
  exact hnodup.1.2.2.2.2.1

section Planning

def rowPlan (naturalSize : ViewId → Size K) (row : Row) (y height : K) :
    K → List (Column K × K) → List (ViewId × Rect K)
  | _, [] => []
  | x, (column, width) :: rest =>
    let x := x + column.gap
    let cell := column.cell row
    (cell, .ofXYWH x y (Scalar.min (naturalSize cell).width width) height) ::
      rowPlan naturalSize row y height (x + width) rest

def rowsPlan (naturalSize : ViewId → Size K) (columns : List (Column K × K)) (height : K) :
    K → List Row → List (ViewId × Rect K)
  | _, [] => []
  | y, row :: rest =>
    rowPlan naturalSize row y height 0 columns ++
      rowsPlan naturalSize columns height (y + (height + lineMargin)) rest

def columnsIn (tree : ViewTree K) (rows : List Row) : List (Column K × K) :=
  Column.all.map fun column => (column, column.widthIn tree rows)

def gridPlan (panel : SavePanel) (tree : ViewTree K) (top : K) (rows : List Row) :
    List (ViewId × Rect K) :=
  (panel.content, ⟨⟨0, top⟩, gridSize tree rows⟩) ::
    rowsPlan tree.naturalSize (columnsIn tree rows) (rowHeight tree rows) lineMargin rows

def framePlan (panel : SavePanel) (tree : ViewTree K) (size : Size K) : List (ViewId × Rect K) :=
  let barHeight := (panel.barSize tree).height
  let saveAll := tree.naturalSize panel.saveAll
  [(panel.bar, .ofXYWH 0 0 size.width barHeight),
    (panel.title, ⟨⟨sideMargin, lineMargin⟩, tree.naturalSize panel.title⟩),
    (panel.saveAll, ⟨⟨size.width - saveAll.width - sideMargin, lineMargin⟩, saveAll⟩),
    (panel.viewport, .ofXYWH border (barHeight + border)
      (Scalar.max 0 (size.width - border * 2))
      (Scalar.max 0 (size.height - barHeight - border * 2)))]

def plan (panel : SavePanel) (tree : ViewTree K) (size : Size K) (top : K) (rows : List Row) :
    List (ViewId × Rect K) :=
  panel.framePlan tree size ++ panel.gridPlan tree top rows

theorem map_fst_rowPlan (naturalSize : ViewId → Size K) (row : Row) (y height x : K)
    (columns : List (Column K × K)) :
    (rowPlan naturalSize row y height x columns).map Prod.fst =
      columns.map fun entry => entry.1.cell row := by
  induction columns generalizing x with
  | nil => rfl
  | cons entry columns ih => rw [rowPlan, List.map_cons, ih, List.map_cons]

theorem map_fst_rowsPlan (naturalSize : ViewId → Size K) (tree : ViewTree K) (all : List Row)
    (height y : K) (rows : List Row) :
    (rowsPlan naturalSize (columnsIn tree all) height y rows).map Prod.fst =
      rows.flatMap Row.cells := by
  induction rows generalizing y with
  | nil => rfl
  | cons row rows ih =>
    rw [rowsPlan, List.map_append, map_fst_rowPlan, ih, List.flatMap_cons]
    rfl

theorem map_fst_plan (tree : ViewTree K) (size : Size K) (top : K) :
    (panel.plan tree size top rows).map Prod.fst = panel.inside rows := by
  rw [plan, List.map_append, gridPlan, List.map_cons, map_fst_rowsPlan]
  rfl

theorem nodup_plan (hnodup : (panel.views rows).Nodup) (tree : ViewTree K) (size : Size K)
    (top : K) : ((panel.plan tree size top rows).map Prod.fst).Nodup := by
  rw [map_fst_plan]
  exact (List.nodup_cons.mp hnodup).2

theorem outer_notMem_plan (hnodup : (panel.views rows).Nodup) (tree : ViewTree K) (size : Size K)
    (top : K) : panel.outer ∉ (panel.plan tree size top rows).map Prod.fst := by
  rw [map_fst_plan]
  exact (List.nodup_cons.mp hnodup).1

/--
The content is the only view whose place depends on how far it is from the top.
-/
def fixedPlan (panel : SavePanel) (tree : ViewTree K) (size : Size K) (rows : List Row) :
    List (ViewId × Rect K) :=
  panel.framePlan tree size ++
    rowsPlan tree.naturalSize (columnsIn tree rows) (rowHeight tree rows) lineMargin rows

theorem mem_plan_iff {size : Size K} {top : K} {entry : ViewId × Rect K} :
    entry ∈ panel.plan tree size top rows ↔
      entry = (panel.content, ⟨⟨0, top⟩, gridSize tree rows⟩) ∨
        entry ∈ panel.fixedPlan tree size rows := by
  unfold plan gridPlan fixedPlan
  rw [List.mem_append, List.mem_append, List.mem_cons, or_left_comm]

theorem content_or_mem_fixedPlan (tree : ViewTree K) (size : Size K) {v : ViewId}
    (hv : v ∈ panel.inside rows) :
    v = panel.content ∨ ∃ entry ∈ panel.fixedPlan tree size rows, entry.1 = v := by
  rw [← map_fst_plan tree size 0, List.mem_map] at hv
  obtain ⟨entry, hentry, rfl⟩ := hv
  rcases mem_plan_iff.mp hentry with rfl | hfixed
  · exact Or.inl rfl
  · exact Or.inr ⟨entry, hfixed, rfl⟩

theorem ne_content_of_mem_fixedPlan (hnodup : (panel.views rows).Nodup) {size : Size K}
    {entry : ViewId × Rect K} (h : entry ∈ panel.fixedPlan tree size rows) :
    entry.1 ≠ panel.content := by
  have hkeys := nodup_plan hnodup tree size 0
  rw [plan, gridPlan, List.map_append, List.map_cons, List.nodup_middle, List.nodup_cons,
    ← List.map_append] at hkeys
  have hmem : entry.1 ∈ (panel.fixedPlan tree size rows).map Prod.fst := List.mem_map_of_mem h
  intro heq
  rw [heq] at hmem
  exact hkeys.1 hmem

section Congruence

variable {after : ViewTree K} (h : after.naturalSize = tree.naturalSize)

include h

/--
The room that the views ask for is all that the plan takes from the tree.
-/
theorem gridPlan_congr (top : K) :
    panel.gridPlan after top rows = panel.gridPlan tree top rows := by
  unfold gridPlan columnsIn gridSize rowHeight Column.widthIn
  rw [h]

theorem plan_congr (size : Size K) (top : K) :
    panel.plan after size top rows = panel.plan tree size top rows := by
  rw [plan, gridPlan_congr h]
  unfold framePlan barSize
  rw [h]
  rfl

theorem fixedPlan_congr (size : Size K) :
    panel.fixedPlan after size rows = panel.fixedPlan tree size rows := by
  unfold fixedPlan framePlan barSize columnsIn rowHeight Column.widthIn
  rw [h]

theorem gridSize_congr : gridSize after rows = gridSize tree rows := by
  unfold gridSize rowHeight Column.widthIn
  rw [h]

theorem naturalSize_congr : panel.naturalSize after rows = panel.naturalSize tree rows := by
  unfold SavePanel.naturalSize barSize gridSize rowHeight Column.widthIn
  rw [h]

end Congruence

end Planning

section Carrying

theorem placeRow_eq (row : Row) (y height x : K) (columns : List (Column K × K))
    (tree : ViewTree K) :
    placeRow row y height x columns tree =
      .ok () (tree.placeAll (rowPlan tree.naturalSize row y height x columns)) := by
  induction columns generalizing x tree with
  | nil => rfl
  | cons entry columns ih =>
    let cell := entry.1.cell row
    let bounds : Rect K := .ofXYWH (x + entry.1.gap) y
      (Scalar.min (tree.naturalSize cell).width entry.2) height
    have hkeeps := ViewTree.place_keeps (Set.mem_singleton cell) bounds tree
    calc placeRow row y height x (entry :: columns) tree
      _ = placeRow row y height (x + entry.1.gap + entry.2) columns
          (tree.place cell bounds).2 := rfl
      _ = _ := by
        rw [ih, hkeeps.naturalSize_eq]
        rfl

theorem placeRows_eq (columns : List (Column K × K)) (height y : K) (rows : List Row)
    (tree : ViewTree K) :
    placeRows columns height y rows tree =
      .ok () (tree.placeAll (rowsPlan tree.naturalSize columns height y rows)) := by
  induction rows generalizing y tree with
  | nil => rfl
  | cons row rows ih =>
    have hrow := placeRow_eq row y height 0 columns tree
    have hkeeps := ViewTree.placeAll_keeps (rowPlan tree.naturalSize row y height 0 columns) tree
    rw [placeRows, Ends.bind_eq_of_ok hrow, ih, hkeeps.naturalSize_eq, rowsPlan,
      ViewTree.placeAll_append]

theorem layoutGrid_eq (panel : SavePanel) (rows : List Row) (tree : ViewTree K) :
    panel.layoutGrid rows tree =
      .ok () (tree.placeAll (panel.gridPlan tree (panel.top tree) rows)) := by
  let bounds : Rect K := ⟨⟨0, panel.top tree⟩, gridSize tree rows⟩
  have hkeeps := ViewTree.place_keeps (Set.mem_singleton panel.content) bounds tree
  calc panel.layoutGrid rows tree
    _ = placeRows (columnsIn tree rows) (rowHeight tree rows) lineMargin rows
        (tree.place panel.content bounds).2 := rfl
    _ = _ := by
      rw [placeRows_eq, hkeeps.naturalSize_eq]
      rfl

/--
What follows when everything has its place.
-/
def rescroll (panel : SavePanel) : EStateM ViewError (ViewTree K) Unit := do
  panel.scrollTo (panel.scrolled (← get))

theorem rescroll_eq_scrollTo (panel : SavePanel) (tree : ViewTree K) :
    panel.rescroll tree = panel.scrollTo (panel.scrolled tree) tree := by
  unfold rescroll
  rw [Ends.get_bind_eq]

theorem layout_eq_of_none (h : tree.bounds? panel.outer = none) (rows : List Row) :
    panel.layout rows tree = .error (.missing panel.outer) tree := by
  unfold layout
  rw [Ends.get_bind_eq, h, Layout.require_none_bind_eq]

theorem layout_eq_of_some (hnodup : (panel.views rows).Nodup) {bounds : Rect K}
    (h : tree.bounds? panel.outer = some bounds) :
    panel.layout rows tree =
      panel.rescroll (tree.placeAll (panel.plan tree bounds.size (panel.top tree) rows)) := by
  have hcontent : panel.content ∉ (panel.framePlan tree bounds.size).map Prod.fst := by
    simp only [views, List.cons_append, List.nodup_cons, List.mem_cons, not_or] at hnodup
    simp only [framePlan, List.map_cons, List.map_nil, List.mem_cons, List.not_mem_nil,
      or_false, not_or]
    exact ⟨Ne.symm hnodup.2.1.2.2.2.1, Ne.symm hnodup.2.2.1.2.2.1, Ne.symm hnodup.2.2.2.1.2.1,
      Ne.symm hnodup.2.2.2.2.1.1⟩
  let framed := tree.placeAll (panel.framePlan tree bounds.size)
  have hframed := ViewTree.placeAll_keeps (panel.framePlan tree bounds.size) tree
  have hgrid : panel.gridPlan framed (panel.top framed) rows =
      panel.gridPlan tree (panel.top tree) rows := by
    rw [gridPlan_congr hframed.naturalSize_eq]
    unfold top
    rw [hframed.bounds?_eq hcontent]
  calc panel.layout rows tree
    _ = (panel.layoutGrid rows >>= fun _ => panel.rescroll) framed := by
      unfold layout
      rw [Ends.get_bind_eq, h, Layout.require_some_bind_eq, Layout.place_bind_eq,
        Layout.place_bind_eq, Layout.place_bind_eq, Layout.place_bind_eq]
      change _ = (panel.layoutGrid rows >>= _) (tree.placeAll (panel.framePlan tree bounds.size))
      unfold framePlan rescroll
      rw [ViewTree.placeAll_cons, ViewTree.placeAll_cons, ViewTree.placeAll_cons,
        ViewTree.placeAll_cons, ViewTree.placeAll_nil]
    _ = panel.rescroll (framed.placeAll (panel.gridPlan tree (panel.top tree) rows)) := by
      rw [Ends.bind_eq_of_ok (layoutGrid_eq panel rows framed), hgrid]
    _ = _ := by rw [plan, ViewTree.placeAll_append]

theorem fit_eq_of_none (h : tree.bounds? panel.outer = none) (rows : List Row) :
    panel.fit rows tree = .error (.missing panel.outer) tree := by
  unfold fit
  rw [Ends.get_bind_eq, h, Layout.require_none_bind_eq]

theorem fit_eq_of_some {bounds : Rect K} (h : tree.bounds? panel.outer = some bounds)
    (rows : List Row) : panel.fit rows tree = panel.layout rows
      (tree.place panel.outer ⟨bounds.origin, panel.naturalSize tree rows⟩).2 := by
  unfold fit
  rw [Ends.get_bind_eq, h, Layout.require_some_bind_eq, Layout.place_bind_eq]

end Carrying

end ViewMotion.SavePanel
