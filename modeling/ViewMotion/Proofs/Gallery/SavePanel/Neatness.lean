import Mathlib.Data.List.Pairwise
import ViewMotion.Proofs.Gallery.PopupButton.Opening
import ViewMotion.Proofs.Gallery.SavePanel.Grid
import ViewMotion.Proofs.Gallery.SavePanel.Repetition

/-!
This module contains the neatness of a save panel of natural size: nothing in it overlaps or sticks
out, there are margins between the rows and borders around the viewport, and the panel does not grow
beyond its limit.
-/

namespace ViewMotion.SavePanel

variable {panel : SavePanel} {rows : List Row} {rect : ViewId → Rect Rat}

section Furnishing

/--
The cells of the row are of the kinds that they were made of.
-/
structure CellsMade (row : Row) (tree : ViewTree Rat) : Prop where
  icon : tree.kind? row.icon = some (.image "folder_open")
  name : ∃ text, tree.kind? row.name = some (.label text)
  size : ∃ text, tree.kind? row.size = some (.label text)
  link : tree.kind? row.link = some (.link "Save" LinkRole.save.code)

/--
The panel is in the tree with all of its rows, and their views are of the kinds that they were made
of. They may be anywhere.
-/
structure Furnished (panel : SavePanel) (rows : List Row) (tree : ViewTree Rat) : Prop where
  nodup : (panel.views rows).Nodup
  bounds_isSome {v : ViewId} (hv : v ∈ panel.views rows) : (tree.bounds? v).isSome
  title : tree.kind? panel.title = some (.link "Resource list" LinkRole.setting.code)
  saveAll : tree.kind? panel.saveAll = some (.link "Save all" LinkRole.saveAll.code)
  viewport : ∃ offset, tree.kind? panel.viewport = some (.scrollView offset)
  cells {row : Row} (hrow : row ∈ rows) : CellsMade row tree

theorem Open.furnished {T C X : Type} {layer : ViewId} {base scene : GalleryScene Rat T C X}
    (h : panel.Open layer base scene) : panel.Furnished (panel.rows scene.store) scene.tree := by
  rcases h.viewport with ⟨offset, hscrolls⟩
  have hstanding := h.standing hscrolls
  constructor
  case nodup => exact h.nodup
  case bounds_isSome =>
    intro v hv
    rw [Option.isSome_iff_exists]
    exact hstanding.exists_bounds hv
  case title => exact h.title
  case saveAll => exact h.saveAll
  case viewport => exact h.viewport
  case cells =>
    intro row hrow
    have hshown := h.shown row hrow
    exact ⟨hshown.icon, hshown.name, hshown.size, hshown.link⟩

theorem furnished_of_build {T C X : Type} [Clock T] {layer : ViewId}
    {scene built : GalleryScene Rat T C X} (htidy : scene.Tidy) (hlayer : layer ∈ scene.tree.kinds)
    (hbuild : build layer scene = .ok panel built) :
    panel.Furnished (panel.rows built.store) built.tree :=
  ((build_ends htidy hlayer).of_eq hbuild).1.furnished

variable {tree : ViewTree Rat} (h : panel.Furnished rows tree)

include h

theorem Furnished.title_size : tree.naturalSize panel.title = ⟨91, 16⟩ := by
  unfold ViewTree.naturalSize
  rw [h.title]
  decide +kernel

theorem Furnished.saveAll_size : tree.naturalSize panel.saveAll = ⟨56, 16⟩ := by
  unfold ViewTree.naturalSize
  rw [h.saveAll]
  decide +kernel

theorem Furnished.barSize_height : (panel.barSize tree).height = 22 := by
  unfold barSize
  rw [h.title_size, h.saveAll_size]
  decide +kernel

theorem Furnished.width_nonneg {v : ViewId} (hv : v ∈ rows.flatMap Row.cells) :
    0 ≤ (tree.naturalSize v).width := by
  have hlabel (text : String) : 0 ≤ (ViewKind.naturalSize (.label text : ViewKind Rat)).width := by
    change (0 : Rat) ≤ text.length * 7 + 2 * 0
    positivity
  rcases List.mem_flatMap.mp hv with ⟨row, hrow, hv⟩
  have hcells := h.cells hrow
  simp only [Row.cells, List.mem_cons, List.not_mem_nil, or_false] at hv
  unfold ViewTree.naturalSize
  rcases hv with rfl | rfl | rfl | rfl
  · rw [hcells.icon]
    decide +kernel
  · rcases hcells.name with ⟨text, hname⟩
    rw [hname]
    exact hlabel text
  · rcases hcells.size with ⟨text, hsize⟩
    rw [hsize]
    exact hlabel text
  · rw [hcells.link]
    decide +kernel

end Furnishing

section Placing

/--
What the views of a panel of natural size get.
-/
structure Placed (panel : SavePanel) (rows : List Row) (tree : ViewTree Rat)
    (rect : ViewId → Rect Rat) : Prop where
  outer_size : (rect panel.outer).size = panel.naturalSize tree rows
  content_size : (rect panel.content).size = gridSize tree rows
  fixed : ∀ entry ∈ panel.fixedPlan tree (panel.naturalSize tree rows) rows, rect entry.1 = entry.2

theorem layout_places {tree : ViewTree Rat} {offset : Rat} {bounds : Rect Rat}
    (hnodup : (panel.views rows).Nodup) (houter : tree.bounds? panel.outer = some bounds)
    (hsome : ∀ v ∈ panel.inside rows, (tree.bounds? v).isSome)
    (hviewport : tree.kind? panel.viewport = some (.scrollView offset)) :
    Succeeds (panel.layout rows) tree fun _ after =>
      after.bounds? panel.outer = some bounds ∧
        (after.bounds? panel.content).map Rect.size = some (gridSize tree rows) ∧
        ∀ entry ∈ panel.fixedPlan tree bounds.size rows,
          after.bounds? entry.1 = some entry.2 := by
  let plan := panel.plan tree bounds.size (panel.top tree) rows
  have hplanned {entry : ViewId × Rect Rat} (hentry : entry ∈ plan) :
      (tree.placeAll plan).bounds? entry.1 = some entry.2 := by
    have hinside : entry.1 ∈ panel.inside rows := by
      rw [← map_fst_plan tree bounds.size (panel.top tree)]
      exact List.mem_map_of_mem hentry
    obtain ⟨current, hcurrent⟩ := Option.isSome_iff_exists.mp (hsome entry.1 hinside)
    rw [tree.placeAll_bounds? (nodup_plan hnodup _ _ _) hentry, hcurrent, Option.map_some]
  have hkind : (tree.placeAll plan).kind? panel.viewport = some (.scrollView offset) := by
    unfold ViewTree.kind?
    rw [ViewTree.placeAll_kinds]
    exact hviewport
  apply Ends.of_apply_eq (layout_eq_of_some hnodup houter)
  apply (rescroll_succeeds hkind (hplanned (mem_plan_iff.mpr (Or.inl rfl)))).mono
  rintro _ after ⟨hkeeps, hsize⟩
  refine ⟨?_, hsize, ?_⟩
  · have hplaced := ViewTree.placeAll_keeps plan tree
    rw [hkeeps.bounds?_eq (outer_ne_content hnodup),
      hplaced.bounds?_eq (outer_notMem_plan hnodup _ _ _), houter]
  · intro entry hentry
    rw [hkeeps.bounds?_eq (ne_content_of_mem_fixedPlan hnodup hentry),
      hplanned (mem_plan_iff.mpr (Or.inr hentry))]

theorem fit_places {tree : ViewTree Rat} (h : panel.Furnished rows tree) :
    Succeeds (panel.fit rows) tree fun _ after => ∃ rect : ViewId → Rect Rat,
      (∀ v ∈ panel.views rows, after.bounds? v = some (rect v)) ∧ panel.Placed rows tree rect := by
  obtain ⟨old, hold⟩ : ∃ old, tree.bounds? panel.outer = some old :=
    Option.isSome_iff_exists.mp (h.bounds_isSome (by simp [views]))
  obtain ⟨offset, hviewport⟩ := h.viewport
  let bounds : Rect Rat := ⟨old.origin, panel.naturalSize tree rows⟩
  let sized := (tree.place panel.outer bounds).2
  have hsized : sized.naturalSize = tree.naturalSize :=
    (ViewTree.place_keeps (Set.mem_singleton panel.outer) bounds tree).naturalSize_eq
  have houter : sized.bounds? panel.outer = some bounds := by
    rw [ViewTree.place_bounds?, if_pos rfl, hold]
    rfl
  have hsome : ∀ v ∈ panel.inside rows, (sized.bounds? v).isSome := by
    intro v hv
    rw [ViewTree.place_bounds?_isSome]
    exact h.bounds_isSome (List.mem_cons_of_mem _ hv)
  have hviewport' : sized.kind? panel.viewport = some (.scrollView offset) := by
    unfold ViewTree.kind?
    rw [ViewTree.place_kinds]
    exact hviewport
  apply Ends.of_apply_eq (fit_eq_of_some hold rows)
  apply (layout_places h.nodup houter hsome hviewport').mono
  rintro _ after ⟨houter, hcontent, hfixed⟩
  rw [gridSize_congr hsized, Option.map_eq_some_iff] at hcontent
  rw [fixedPlan_congr hsized] at hfixed
  obtain ⟨content, hcontent, hsize⟩ := hcontent
  have hbounded : ∀ v ∈ panel.views rows, (after.bounds? v).isSome := by
    intro v hv
    rw [Option.isSome_iff_exists]
    rcases List.mem_cons.mp hv with rfl | hinside
    · exact ⟨_, houter⟩
    · rcases content_or_mem_fixedPlan tree bounds.size hinside with rfl | ⟨entry, hentry, rfl⟩
      · exact ⟨_, hcontent⟩
      · exact ⟨_, hfixed entry hentry⟩
  refine ⟨fun v => (after.bounds? v).getD default, ?_, ?_⟩
  · intro v hv
    obtain ⟨bounds, hv⟩ := Option.isSome_iff_exists.mp (hbounded v hv)
    dsimp only
    rw [hv]
    rfl
  · constructor
    case outer_size =>
      rw [houter]
      rfl
    case content_size =>
      rw [hcontent]
      exact hsize
    case fixed =>
      intro entry hentry
      rw [hfixed entry hentry]
      rfl

end Placing

section Order

variable {tree : ViewTree Rat}

structure Orderly (panel : SavePanel) (rows : List Row) (rect : ViewId → Rect Rat) : Prop where
  cells_within : ∀ v ∈ rows.flatMap Row.cells, (rect v).Within (rect panel.content).size
  cells_disjoint : ∀ v ∈ rows.flatMap Row.cells, ∀ w ∈ rows.flatMap Row.cells, v ≠ w →
    Disjoint (rect v).interior (rect w).interior
  cells_ordered : ∀ row ∈ rows, row.cells.Pairwise fun v w => (rect v).right ≤ (rect w).origin.x
  rows_ordered : rows.Pairwise fun row later => ∀ v ∈ row.cells, ∀ w ∈ later.cells,
    (rect v).bottom + lineMargin ≤ (rect w).origin.y
  rows_spaced : rows.IsChain fun row next => ∀ v ∈ row.cells, ∀ w ∈ next.cells,
    (rect w).origin.y = (rect v).bottom + lineMargin
  bar_within : (rect panel.bar).Within (rect panel.outer).size
  viewport_within : (rect panel.viewport).Within (rect panel.outer).size
  bar_viewport_disjoint : Disjoint (rect panel.bar).region (rect panel.viewport).region
  border_left : (rect panel.viewport).origin.x = border
  border_right : (rect panel.viewport).right + border = (rect panel.outer).size.width
  border_bottom : (rect panel.viewport).bottom + border = (rect panel.outer).size.height
  title_within : (rect panel.title).Within (rect panel.bar).size
  saveAll_within : (rect panel.saveAll).Within (rect panel.bar).size
  links_disjoint : Disjoint (rect panel.title).region (rect panel.saveAll).region
  content_width_le : (rect panel.content).size.width ≤ (rect panel.viewport).size.width
  outer_height_le : (rect panel.outer).size.height ≤ heightLimit + 2 * border
  viewport_lower_iff : (rect panel.viewport).size.height < (rect panel.content).size.height ↔
    heightLimit < (rect panel.content).size.height + (rect panel.bar).size.height

variable (h : panel.Furnished rows tree) (hplaced : panel.Placed rows tree rect)

section Cells

include h hplaced

theorem Placed.sideBySide (i : Nat) (hi : i < rows.length) :
    SideBySide rect rows[i].cells 0 (rowEnd 0 (columnsIn tree rows)) (rowTop tree rows i)
      (rowHeight tree rows) := by
  apply rowsPlan_sideBySide (columnsIn_nonneg tree rows) (fun _ => rfl)
    (fun v hv => h.width_nonneg hv)
  intro entry hentry
  exact hplaced.fixed entry (List.mem_append_right _ hentry)

theorem Placed.cells_within : ∀ v ∈ rows.flatMap Row.cells,
    (rect v).Within (rect panel.content).size := by
  intro v hv
  rcases List.mem_flatMap.mp hv with ⟨row, hrow, hv⟩
  rcases List.getElem_of_mem hrow with ⟨i, hi, rfl⟩
  have hstrip := (hplaced.sideBySide h i hi).inStrip v hv
  have hlast : rowTop tree rows (i + 1) ≤ rowTop tree rows rows.length := rowTop_mono hi
  rw [hplaced.content_size]
  constructor
  case left => exact hstrip.left_le
  case top =>
    rw [hstrip.top_eq]
    exact rowTop_nonneg i
  case width => exact hstrip.width_nonneg
  case height =>
    rw [hstrip.height_eq]
    exact rowHeight_nonneg tree rows
  case right =>
    rw [gridSize_width_rat]
    linarith [hstrip.le_right]
  case bottom =>
    rw [rowTop_succ, lineMargin_rat] at hlast
    unfold Rect.bottom
    rw [gridSize_height_rat, hstrip.top_eq, hstrip.height_eq]
    linarith

theorem Placed.rows_ordered : rows.Pairwise fun row later => ∀ v ∈ row.cells, ∀ w ∈ later.cells,
    (rect v).bottom + lineMargin ≤ (rect w).origin.y := by
  rw [List.pairwise_iff_getElem]
  intro i j hi hj hij v hv w hw
  have hv := (hplaced.sideBySide h i hi).inStrip v hv
  have hw := (hplaced.sideBySide h j hj).inStrip w hw
  have hnext : rowTop tree rows (i + 1) ≤ rowTop tree rows j := rowTop_mono hij
  unfold Rect.bottom
  rw [hv.top_eq, hv.height_eq, hw.top_eq, ← rowTop_succ]
  exact hnext

theorem Placed.rows_spaced : rows.IsChain fun row next => ∀ v ∈ row.cells, ∀ w ∈ next.cells,
    (rect w).origin.y = (rect v).bottom + lineMargin := by
  rw [List.isChain_iff_getElem]
  intro i hi v hv w hw
  have hv := (hplaced.sideBySide h i (Nat.lt_of_succ_lt hi)).inStrip v hv
  have hw := (hplaced.sideBySide h (i + 1) hi).inStrip w hw
  unfold Rect.bottom
  rw [hv.top_eq, hv.height_eq, hw.top_eq, rowTop_succ]

theorem Placed.cells_ordered : ∀ row ∈ rows,
    row.cells.Pairwise fun v w => (rect v).right ≤ (rect w).origin.x := by
  intro row hrow
  rcases List.getElem_of_mem hrow with ⟨i, hi, rfl⟩
  exact (hplaced.sideBySide h i hi).ordered

theorem Placed.cells_disjoint : ∀ v ∈ rows.flatMap Row.cells, ∀ w ∈ rows.flatMap Row.cells,
    v ≠ w → Disjoint (rect v).interior (rect w).interior := by
  have hpairwise : (rows.flatMap Row.cells).Pairwise fun v w =>
      Disjoint (rect v).interior (rect w).interior := by
    rw [List.pairwise_flatMap]
    constructor
    · intro row hrow
      exact (hplaced.cells_ordered h row hrow).imp Rect.interior_disjoint_beside
    · refine (hplaced.rows_ordered h).imp fun hrows v hv w hw => ?_
      apply Rect.interior_disjoint_above
      have hbelow := hrows v hv w hw
      rw [lineMargin_rat] at hbelow
      linarith
  have : Std.Symm fun v w => Disjoint (rect v).interior (rect w).interior :=
    ⟨fun _ _ hdisjoint => hdisjoint.symm⟩
  intro v hv w hw hne
  exact List.Pairwise.forall hpairwise hv hw hne

end Cells

section Frame

theorem naturalSize_cases (hbar : (panel.barSize tree).height = 22) :
    420 < (gridSize tree rows).height + 22 ∧
        panel.naturalSize tree rows = ⟨(gridSize tree rows).width + 17, 422⟩ ∨
      (gridSize tree rows).height + 22 ≤ 420 ∧
        panel.naturalSize tree rows =
          ⟨(gridSize tree rows).width + 2, (gridSize tree rows).height + 24⟩ := by
  unfold naturalSize
  dsimp only
  rw [hbar, heightLimit_rat, border_rat, scrollBar_rat]
  split
  · next hlt =>
    refine Or.inl ⟨hlt, ?_⟩
    rw [Size.mk.injEq]
    constructor <;> ring
  · next hle =>
    refine Or.inr ⟨not_lt.mp hle, ?_⟩
    rw [Size.mk.injEq]
    constructor <;> ring

/--
What is around the grid of a panel that is `size` large.
-/
structure Framed (panel : SavePanel) (rect : ViewId → Rect Rat) (size : Size Rat) : Prop where
  outer : (rect panel.outer).size = size
  bar : rect panel.bar = .ofXYWH 0 0 size.width 22
  title : rect panel.title = .ofXYWH 12 3 91 16
  saveAll : rect panel.saveAll = .ofXYWH (size.width - 68) 3 56 16
  viewport : rect panel.viewport = .ofXYWH 1 23 (size.width - 2) (size.height - 24)

theorem natural_bounds (h : panel.Furnished rows tree) :
    192 ≤ (panel.naturalSize tree rows).width ∧ 24 ≤ (panel.naturalSize tree rows).height := by
  have hwidth := le_gridSize_width tree rows
  have hheight : 0 ≤ (gridSize tree rows).height := by
    rw [gridSize_height_rat]
    exact rowTop_nonneg rows.length
  rcases naturalSize_cases h.barSize_height with ⟨-, hsize⟩ | ⟨-, hsize⟩
  · rw [hsize]
    constructor <;> dsimp only <;> linarith
  · rw [hsize]
    constructor <;> dsimp only <;> linarith

include h hplaced

theorem Placed.framed : panel.Framed rect (panel.naturalSize tree rows) := by
  have hframe : ∀ entry ∈ panel.framePlan tree (panel.naturalSize tree rows),
      rect entry.1 = entry.2 :=
    fun entry hentry => hplaced.fixed entry (List.mem_append_left _ hentry)
  simp only [framePlan, List.forall_mem_cons, h.barSize_height, h.title_size, h.saveAll_size,
    Scalar.max_rat, border_rat, sideMargin_rat, lineMargin_rat] at hframe
  rcases hframe with ⟨hbar, htitle, hsaveAll, hviewport, -⟩
  rcases natural_bounds h with ⟨hwidth, hheight⟩
  constructor
  case outer => exact hplaced.outer_size
  case bar => exact hbar
  case title => exact htitle
  case saveAll =>
    rw [hsaveAll, sub_sub]
    norm_num [Rect.ofXYWH]
  case viewport =>
    rw [hviewport, max_eq_right, max_eq_right, sub_sub]
    · norm_num
    · linarith
    · linarith

end Frame

include h hplaced

theorem Placed.orderly : panel.Orderly rows rect := by
  have hframed := hplaced.framed h
  rcases natural_bounds h with ⟨hwidth, hheight⟩
  constructor
  case cells_within => exact hplaced.cells_within h
  case cells_disjoint => exact hplaced.cells_disjoint h
  case cells_ordered => exact hplaced.cells_ordered h
  case rows_ordered => exact hplaced.rows_ordered h
  case rows_spaced => exact hplaced.rows_spaced h
  case bar_within =>
    rw [hframed.bar, hframed.outer]
    constructor <;> simp only [Rect.ofXYWH, Rect.right, Rect.bottom] <;> linarith
  case viewport_within =>
    rw [hframed.viewport, hframed.outer]
    constructor <;> simp only [Rect.ofXYWH, Rect.right, Rect.bottom] <;> linarith
  case bar_viewport_disjoint =>
    rw [hframed.bar, hframed.viewport]
    apply Rect.region_disjoint_above
    simp only [Rect.ofXYWH, Rect.bottom]
    norm_num
  case border_left =>
    rw [hframed.viewport, border_rat]
    rfl
  case border_right =>
    rw [hframed.viewport, hframed.outer, border_rat]
    simp only [Rect.ofXYWH, Rect.right]
    ring
  case border_bottom =>
    rw [hframed.viewport, hframed.outer, border_rat]
    simp only [Rect.ofXYWH, Rect.bottom]
    ring
  case title_within =>
    rw [hframed.title, hframed.bar]
    constructor <;> simp only [Rect.ofXYWH, Rect.right, Rect.bottom] <;> linarith
  case saveAll_within =>
    rw [hframed.saveAll, hframed.bar]
    constructor <;> simp only [Rect.ofXYWH, Rect.right, Rect.bottom] <;> linarith
  case links_disjoint =>
    rw [hframed.title, hframed.saveAll]
    apply Rect.region_disjoint_beside
    simp only [Rect.ofXYWH, Rect.right]
    linarith
  case content_width_le =>
    rw [hframed.viewport, hplaced.content_size]
    simp only [Rect.ofXYWH]
    rcases naturalSize_cases h.barSize_height with ⟨-, hsize⟩ | ⟨-, hsize⟩ <;> rw [hsize] <;>
      linarith
  case outer_height_le =>
    rw [hframed.outer, heightLimit_rat, border_rat]
    rcases naturalSize_cases h.barSize_height with ⟨-, hsize⟩ | ⟨hle, hsize⟩ <;> rw [hsize] <;>
      linarith
  case viewport_lower_iff =>
    rw [hframed.viewport, hframed.bar, hplaced.content_size, heightLimit_rat]
    simp only [Rect.ofXYWH]
    rcases naturalSize_cases h.barSize_height with ⟨hlt, hsize⟩ | ⟨hle, hsize⟩ <;> rw [hsize]
    · exact ⟨fun _ => hlt, fun _ => by linarith⟩
    · constructor <;> intro _ <;> linarith

end Order

/--
Names and sizes of any length may be shown in the rows, and there may be any number of rows.
-/
theorem fit_orderly {tree : ViewTree Rat} (h : panel.Furnished rows tree) :
    Succeeds (panel.fit rows) tree fun _ after => ∃ rect : ViewId → Rect Rat,
      (∀ v ∈ panel.views rows, after.bounds? v = some (rect v)) ∧ panel.Orderly rows rect := by
  apply (fit_places h).mono
  intro _ after ⟨rect, hbounds, hplaced⟩
  exact ⟨rect, hbounds, hplaced.orderly h⟩

theorem fit_orderly_built :
    let scene : GalleryScene Rat ManualClock Empty Unit :=
      Scene.new .counted .atEpoch {} (.new ())
    let panel : SavePanel := ⟨⟨1⟩, ⟨2⟩, ⟨3⟩, ⟨4⟩, ⟨5⟩, ⟨6⟩⟩
    let built := Scene.settle (build ⟨0⟩) scene
    let rows := panel.rows built.store
    build ⟨0⟩ scene = .ok panel built ∧ rows.length = 8 ∧ panel.Furnished rows built.tree ∧
      Succeeds (panel.fit rows) built.tree fun _ after => ∃ rect : ViewId → Rect Rat,
        (∀ v ∈ panel.views rows, after.bounds? v = some (rect v)) ∧ panel.Orderly rows rect := by
  intro scene panel built rows
  have htidy : scene.Tidy :=
    Scene.tidy_of_only_tree .counted ManualClock.atEpoch {} (Gallery.new ()) []
  have hbuild : build ⟨0⟩ scene = .ok panel built := Scene.eq_ok_of_run' (by decide +kernel)
  have hroot : (⟨0⟩ : ViewId) ∈ scene.tree.kinds := by decide +kernel
  have hfurnished : panel.Furnished rows built.tree := furnished_of_build htidy hroot hbuild
  refine ⟨hbuild, by decide +kernel, hfurnished, ?_⟩
  -- otherwise the whole panel would be built again to unfold what is claimed of it
  generalize built.tree = tree at hfurnished ⊢
  exact fit_orderly hfurnished

end ViewMotion.SavePanel
