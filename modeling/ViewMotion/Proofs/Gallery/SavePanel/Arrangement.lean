import ViewMotion.Gallery.SavePanel.Layout
import ViewMotion.Proofs.ViewTree.Arrangement

/-!
This module contains what the layout and the scrolling of a save panel do to a tree: the views of
the panel get other bounds, and the viewport shows another part of its content.
-/

namespace ViewMotion.SavePanel

variable {K : Type} {panel : SavePanel} {rows : List Row} {offset : K}

def views (panel : SavePanel) (rows : List Row) : List ViewId :=
  [panel.outer, panel.bar, panel.title, panel.saveAll, panel.viewport, panel.content] ++
    rows.flatMap Row.cells

/--
The views of the panel are there, and its viewport has been scrolled by `offset`.
-/
structure Standing (panel : SavePanel) (rows : List Row) (offset : K) (tree : ViewTree K) :
    Prop where
  wellFormed : tree.WellFormed
  nodup : (panel.views rows).Nodup
  mem {v : ViewId} (hv : v ∈ panel.views rows) : v ∈ tree.kinds
  scrolls : tree.kind? panel.viewport = some (.scrollView offset)

variable {tree next after : ViewTree K}

theorem Standing.exists_bounds (h : panel.Standing rows offset tree) {v : ViewId}
    (hv : v ∈ panel.views rows) : ∃ bounds, tree.bounds? v = some bounds := by
  rw [← Option.isSome_iff_exists, h.wellFormed.placed_iff_mem]
  exact h.mem hv

variable [Scalar K]

/--
The bounds of views and the offset of the viewport are all that is other than before.
-/
structure Arranged (panel : SavePanel) (tree after : ViewTree K) : Prop where
  shape : ViewTree.SameShape tree after
  groups_eq : after.groups = tree.groups
  kind?_eq {v : ViewId} (hv : v ≠ panel.viewport) : after.kind? v = tree.kind? v
  naturalSize_eq (v : ViewId) : after.naturalSize v = tree.naturalSize v
  wellFormed (h : tree.WellFormed) : after.WellFormed

theorem Arranged.trans (h : panel.Arranged tree next) (h' : panel.Arranged next after) :
    panel.Arranged tree after where
  shape := h.shape.trans h'.shape
  groups_eq := h'.groups_eq.trans h.groups_eq
  kind?_eq hv := (h'.kind?_eq hv).trans (h.kind?_eq hv)
  naturalSize_eq v := (h'.naturalSize_eq v).trans (h.naturalSize_eq v)
  wellFormed hformed := h'.wellFormed (h.wellFormed hformed)

theorem Arranged.of_moved {views : Set ViewId} (h : ViewTree.Moved views tree after) :
    panel.Arranged tree after where
  shape := h.shape
  groups_eq := h.groups_eq
  kind?_eq _ := h.kind?_eq _
  naturalSize_eq := h.naturalSize_eq
  wellFormed := h.wellFormed

theorem Arranged.standing (h : panel.Arranged tree after)
    (hstanding : panel.Standing rows offset tree) {offset' : K}
    (hscrolls : after.kind? panel.viewport = some (.scrollView offset')) :
    panel.Standing rows offset' after where
  wellFormed := h.wellFormed hstanding.wellFormed
  nodup := hstanding.nodup
  mem hv := (h.shape.mem_kinds _).mpr (hstanding.mem hv)
  scrolls := hscrolls

section Sizes

variable (h : panel.Arranged tree after)

include h

theorem Arranged.gridSize_eq (rows : List Row) : gridSize after rows = gridSize tree rows := by
  unfold gridSize rowHeight Column.widthIn
  simp only [h.naturalSize_eq]

theorem Arranged.barSize_eq : panel.barSize after = panel.barSize tree := by
  unfold barSize
  simp only [h.naturalSize_eq]

theorem Arranged.naturalSize_eq' (rows : List Row) :
    panel.naturalSize after rows = panel.naturalSize tree rows := by
  unfold naturalSize
  rw [h.gridSize_eq, h.barSize_eq]

end Sizes

section Scrolling

/--
The content has been moved up by `offset`.
-/
structure Scrolled (panel : SavePanel) (offset : K) (tree after : ViewTree K) : Prop where
  arranged : panel.Arranged tree after
  scrolls : after.kind? panel.viewport = some (.scrollView offset)
  content {bounds : Rect K} (h : tree.bounds? panel.content = some bounds) :
    after.bounds? panel.content = some (bounds.movedTo ⟨bounds.origin.x, -offset⟩)
  bounds?_eq {v : ViewId} (hv : v ≠ panel.content) : after.bounds? v = tree.bounds? v

def clamped (limit offset : K) : K := Scalar.min (Scalar.max 0 offset) limit

theorem scrollTo_ends (h : panel.Standing rows offset tree) (target : K) :
    Succeeds (panel.scrollTo target) tree fun _ after =>
      panel.Scrolled (clamped (panel.scrollLimit tree) target) tree after := by
  have hcontent : ∃ bounds, tree.bounds? panel.content = some bounds :=
    h.exists_bounds (by simp [views])
  rcases hcontent with ⟨bounds, hbounds⟩
  have hchanged : ∃ changed, tree.modifyKind? panel.viewport
      (scrollTo.withOffset (clamped (panel.scrollLimit tree) target)) = some changed := by
    unfold ViewTree.modifyKind?
    rw [h.scrolls]
    exact ⟨_, rfl⟩
  rcases hchanged with ⟨changed, hchanged⟩
  have hscrollTo : panel.scrollTo target tree = .ok () (changed.place panel.content
      (bounds.movedTo ⟨bounds.origin.x, -clamped (panel.scrollLimit tree) target⟩)).2 := by
    unfold clamped at hchanged
    unfold scrollTo
    change EStateM.bind EStateM.get _ tree = _
    unfold EStateM.bind EStateM.get
    dsimp only
    rw [hchanged, h.scrolls, hbounds]
    rfl
  apply Succeeds.of_ok hscrollTo
  rcases ViewTree.modifyKind?_effect hchanged with ⟨_, hshape, hbounds_eq, hgroups, -⟩
  have hkind := ViewTree.modifyKind?_kind? hchanged
  have hmoved := changed.place_moved
    (bounds.movedTo ⟨bounds.origin.x, -clamped (panel.scrollLimit tree) target⟩)
    (Set.mem_singleton panel.content)
  constructor
  case arranged =>
    refine Arranged.trans ?_ (.of_moved hmoved)
    constructor
    case shape => exact hshape
    case groups_eq => exact hgroups
    case kind?_eq =>
      intro v hv
      rw [hkind, if_neg (Ne.symm hv)]
    case naturalSize_eq =>
      intro v
      unfold ViewTree.naturalSize
      rw [hkind]
      split
      · next heq =>
        rw [← heq, h.scrolls]
        rfl
      · rfl
    case wellFormed => exact fun hformed => hformed.modifyKind? hchanged
  case scrolls =>
    rw [hmoved.kind?_eq, hkind, if_pos rfl, h.scrolls]
    rfl
  case content =>
    intro bounds' hbounds'
    rw [ViewTree.place_bounds?, if_pos rfl]
    unfold ViewTree.bounds? at hbounds hbounds' ⊢
    rw [hbounds] at hbounds'
    injection hbounds' with hbounds'
    rw [hbounds_eq, hbounds, hbounds']
    rfl
  case bounds?_eq =>
    intro v hv
    rw [hmoved.bounds?_eq hv]
    unfold ViewTree.bounds?
    rw [hbounds_eq]

end Scrolling

section Grid

theorem placeRow_ends {row : Row} {columns : List (Column K × K)}
    (hcolumns : ∀ entry ∈ columns, entry.1.cell row ∈ row.cells) (y height x : K)
    (tree : ViewTree K) :
    Succeeds (placeRow row y height x columns) tree fun _ after =>
      ViewTree.Moved {v | v ∈ row.cells} tree after := by
  induction columns generalizing x tree with
  | nil => exact ViewTree.Moved.refl _ tree
  | cons entry columns ih =>
    have hcell : entry.1.cell row ∈ row.cells := hcolumns entry List.mem_cons_self
    unfold placeRow
    apply Ends.get_bind
    apply (Layout.place_ends {v | v ∈ row.cells} hcell _ tree).bind_ends
    intro _ next ⟨hnext, _⟩
    apply (ih (fun e he => hcolumns e (List.mem_cons_of_mem entry he)) _ next).mono
    exact fun _ after hafter => hnext.trans hafter

theorem placeRows_ends {columns : List (Column K × K)}
    (hcolumns : ∀ row : Row, ∀ entry ∈ columns, entry.1.cell row ∈ row.cells) (height y : K)
    (rows : List Row) (tree : ViewTree K) :
    Succeeds (placeRows columns height y rows) tree fun _ after =>
      ViewTree.Moved {v | v ∈ rows.flatMap Row.cells} tree after := by
  induction rows generalizing y tree with
  | nil => exact ViewTree.Moved.refl _ tree
  | cons row rows ih =>
    unfold placeRows
    apply (placeRow_ends (hcolumns row) y height 0 tree).bind_ends
    intro _ next hnext
    apply (ih _ next).mono
    intro _ after hafter
    apply (hnext.mono _).trans (hafter.mono _)
    · intro v hv
      rw [Set.mem_ofPred_eq, List.flatMap_cons]
      exact List.mem_append_left _ hv
    · intro v hv
      rw [Set.mem_ofPred_eq, List.flatMap_cons]
      exact List.mem_append_right _ hv

theorem Column.cell_mem {column : Column K} (h : column ∈ Column.all) (row : Row) :
    column.cell row ∈ row.cells := by
  unfold Column.all at h
  simp only [List.mem_cons, List.not_mem_nil, or_false] at h
  rcases h with rfl | rfl | rfl | rfl <;> simp [Row.cells]

theorem layoutGrid_ends (h : panel.Standing rows offset tree) :
    Succeeds (panel.layoutGrid rows) tree fun _ after =>
      ViewTree.Moved {v | v ∈ panel.content :: rows.flatMap Row.cells} tree after ∧
        ∀ bounds, tree.bounds? panel.content = some bounds →
          after.bounds? panel.content = some ⟨⟨0, bounds.origin.y⟩, gridSize tree rows⟩ := by
  have hcontent : panel.content ∉ rows.flatMap Row.cells := by
    have hnodup := h.nodup
    simp only [views, List.cons_append, List.nil_append, List.nodup_cons] at hnodup
    exact hnodup.2.2.2.2.2.1
  unfold layoutGrid
  apply Ends.get_bind
  apply (Layout.place_ends {v | v ∈ panel.content :: rows.flatMap Row.cells}
    List.mem_cons_self _ tree).bind_ends
  intro _ next ⟨hnext, hbounds⟩
  apply (placeRows_ends _ _ _ rows next).mono
  · intro _ after hafter
    refine ⟨hnext.trans (hafter.mono fun v hv => List.mem_cons_of_mem _ hv), ?_⟩
    intro bounds hold
    rw [hafter.bounds?_eq hcontent, hbounds, hold]
    rfl
  · intro row entry hentry
    rcases List.mem_map.mp hentry with ⟨column, hcolumn, rfl⟩
    exact Column.cell_mem hcolumn row

end Grid

/--
How far the content of a panel of natural size can be moved up.
-/
def room (panel : SavePanel) (tree : ViewTree K) (rows : List Row) : K :=
  let height := (panel.naturalSize tree rows).height - (panel.barSize tree).height - border * 2
  Scalar.max 0 ((gridSize tree rows).height - Scalar.max 0 height)

/--
The panel has its natural size, and what is inside of it has the sizes that belong to this one.
-/
structure Sized (panel : SavePanel) (rows : List Row) (tree : ViewTree K) : Prop where
  outer : ∃ origin, tree.bounds? panel.outer = some ⟨origin, panel.naturalSize tree rows⟩
  bar : ∃ bounds, tree.bounds? panel.bar = some bounds ∧
    bounds.size.height = (panel.barSize tree).height
  viewport : ∃ bounds, tree.bounds? panel.viewport = some bounds ∧ bounds.size.height =
    Scalar.max 0 ((panel.naturalSize tree rows).height - (panel.barSize tree).height - border * 2)
  content : ∃ y, tree.bounds? panel.content = some ⟨⟨0, y⟩, gridSize tree rows⟩

structure Laid (panel : SavePanel) (rows : List Row) (offset : K) (tree : ViewTree K) : Prop
    extends panel.Standing rows offset tree, panel.Sized rows tree where
  shifted : tree.bounds? panel.content = some ⟨⟨0, -offset⟩, gridSize tree rows⟩

theorem Sized.scrollLimit_eq (h : panel.Sized rows tree) :
    panel.scrollLimit tree = panel.room tree rows := by
  rcases h.viewport with ⟨bounds, hviewport, hheight⟩
  rcases h.content with ⟨y, hcontent⟩
  unfold scrollLimit scrollLimit.height room
  rw [hviewport, hcontent]
  dsimp only [Option.elim]
  rw [hheight]

theorem Sized.scrollTo_ends (h : panel.Sized rows tree)
    (hstanding : panel.Standing rows offset tree) (target : K) :
    Succeeds (panel.scrollTo target) tree fun _ after =>
      panel.Arranged tree after ∧
        panel.Laid rows (clamped (panel.room tree rows) target) after := by
  have hnodup := hstanding.nodup
  simp only [views, List.cons_append, List.nil_append, List.nodup_cons, List.mem_cons, not_or]
    at hnodup
  rcases h.outer with ⟨origin, houter⟩
  rcases h.viewport with ⟨bounds, hviewport, hheight⟩
  rcases h.content with ⟨y, hcontent⟩
  apply (SavePanel.scrollTo_ends hstanding target).mono
  intro _ after hscrolled
  rw [h.scrollLimit_eq] at hscrolled
  have harranged := hscrolled.arranged
  have hshifted := hscrolled.content hcontent
  refine ⟨harranged, ?_⟩
  rw [← harranged.gridSize_eq] at hshifted
  constructor
  case toStanding => exact harranged.standing hstanding hscrolled.scrolls
  case toSized =>
    constructor
    case outer =>
      rw [hscrolled.bounds?_eq hnodup.1.2.2.2.2.1, harranged.naturalSize_eq']
      exact h.outer
    case bar =>
      rw [hscrolled.bounds?_eq hnodup.2.1.2.2.2.1, harranged.barSize_eq]
      exact h.bar
    case viewport =>
      rw [hscrolled.bounds?_eq hnodup.2.2.2.2.1.1, harranged.naturalSize_eq', harranged.barSize_eq]
      exact h.viewport
    case content => exact ⟨_, hshifted⟩
  case shifted => exact hshifted

theorem Arranged.room_eq (h : panel.Arranged tree after) (rows : List Row) :
    panel.room after rows = panel.room tree rows := by
  unfold room
  rw [h.naturalSize_eq', h.barSize_eq, h.gridSize_eq]

theorem layout_ends (h : panel.Standing rows offset tree) {origin : Point K}
    (houter : tree.bounds? panel.outer = some ⟨origin, panel.naturalSize tree rows⟩) :
    Succeeds (panel.layout rows) tree fun _ after =>
      panel.Arranged tree after ∧
        panel.Laid rows (clamped (panel.room tree rows) offset) after := by
  have hnodup := h.nodup
  simp only [views, List.cons_append, List.nil_append, List.nodup_cons, List.mem_cons, not_or]
    at hnodup
  obtain ⟨bar, hbarBounds⟩ : ∃ bounds, tree.bounds? panel.bar = some bounds :=
    h.exists_bounds (by simp [views])
  obtain ⟨viewport, hviewport⟩ : ∃ bounds, tree.bounds? panel.viewport = some bounds :=
    h.exists_bounds (by simp [views])
  obtain ⟨content, hcontent⟩ : ∃ bounds, tree.bounds? panel.content = some bounds :=
    h.exists_bounds (by simp [views])
  unfold layout
  apply Ends.get_bind
  dsimp only
  rw [houter]
  apply Ends.bind_ok rfl
  let inBar : Set ViewId := {v | v ∈ [panel.bar, panel.title, panel.saveAll]}
  apply (Layout.place_ends inBar (by simp [inBar]) _ tree).bind_ends
  intro _ tree₁ ⟨h₁, hplaced₁⟩
  apply (Layout.place_ends {panel.title} rfl _ tree₁).bind_ends
  intro _ tree₂ ⟨h₂, _⟩
  apply (Layout.place_ends {panel.saveAll} rfl _ tree₂).bind_ends
  intro _ tree₃ ⟨h₃, _⟩
  apply (Layout.place_ends {panel.viewport} rfl _ tree₃).bind_ends
  intro _ tree₄ ⟨h₄, hplaced⟩
  have hbar := (h₁.trans (h₂.mono (by simp [inBar]))).trans (h₃.mono (by simp [inBar]))
  have hbefore : panel.Arranged tree tree₄ := (Arranged.of_moved hbar).trans (.of_moved h₄)
  have hscrolls : tree₄.kind? panel.viewport = some (.scrollView offset) := by
    rw [h₄.kind?_eq, hbar.kind?_eq, h.scrolls]
  apply (layoutGrid_ends (hbefore.standing h hscrolls)).bind_ends
  intro _ tree₅ ⟨h₅, hgrid⟩
  have hall : panel.Arranged tree tree₅ := hbefore.trans (.of_moved h₅)
  have hscrolls₅ : tree₅.kind? panel.viewport = some (.scrollView offset) := by
    rw [h₅.kind?_eq, hscrolls]
  have hsized : panel.Sized rows tree₅ := by
    constructor
    case outer =>
      refine ⟨origin, ?_⟩
      rw [h₅.bounds?_eq, h₄.bounds?_eq, hbar.bounds?_eq, houter, hall.naturalSize_eq']
      · simp [inBar, hnodup.1]
      · exact hnodup.1.2.2.2.1
      · rw [Set.mem_ofPred_eq, List.mem_cons, not_or]
        exact hnodup.1.2.2.2.2
    case bar =>
      rw [hbarBounds, Option.map_some, ← h₂.bounds?_eq, ← h₃.bounds?_eq, ← h₄.bounds?_eq,
        ← h₅.bounds?_eq] at hplaced₁
      · refine ⟨_, hplaced₁, ?_⟩
        rw [hall.barSize_eq]
        rfl
      · rw [Set.mem_ofPred_eq, List.mem_cons, not_or]
        exact hnodup.2.1.2.2.2
      · exact hnodup.2.1.2.2.1
      · exact hnodup.2.1.2.1
      · exact hnodup.2.1.1
    case viewport =>
      rw [hbar.bounds?_eq, hviewport, Option.map_some, ← h₅.bounds?_eq] at hplaced
      · refine ⟨_, hplaced, ?_⟩
        rw [hall.naturalSize_eq', hall.barSize_eq]
        rfl
      · rw [Set.mem_ofPred_eq, List.mem_cons, not_or]
        exact hnodup.2.2.2.2.1
      · simp [inBar, Ne.symm hnodup.2.1.2.2.1, Ne.symm hnodup.2.2.1.2.1,
          Ne.symm hnodup.2.2.2.1.1]
    case content =>
      rw [hall.gridSize_eq, ← hbefore.gridSize_eq]
      refine ⟨_, hgrid content ?_⟩
      rw [h₄.bounds?_eq, hbar.bounds?_eq, hcontent]
      · simp [inBar, Ne.symm hnodup.2.1.2.2.2.1, Ne.symm hnodup.2.2.1.2.2.1,
          Ne.symm hnodup.2.2.2.1.2.1]
      · exact Ne.symm hnodup.2.2.2.2.1.1
  apply Ends.get_bind
  have hoffset : panel.scrolled tree₅ = offset := by
    unfold scrolled
    rw [hscrolls₅]
  rw [hoffset, ← hall.room_eq]
  apply (hsized.scrollTo_ends (hall.standing h hscrolls₅) offset).mono
  intro _ after ⟨hafter, hlaid⟩
  exact ⟨hall.trans hafter, hlaid⟩

theorem fit_ends (h : panel.Standing rows offset tree) :
    Succeeds (panel.fit rows) tree fun _ after =>
      panel.Arranged tree after ∧
        panel.Laid rows (clamped (panel.room tree rows) offset) after := by
  obtain ⟨bounds, houter⟩ : ∃ bounds, tree.bounds? panel.outer = some bounds :=
    h.exists_bounds (by simp [views])
  unfold fit
  apply Ends.get_bind
  rw [houter]
  apply Ends.bind_ok rfl
  apply (Layout.place_ends {panel.outer} rfl _ tree).bind_ends
  intro _ next ⟨hmoved, hplaced⟩
  have hnext : panel.Arranged tree next := .of_moved hmoved
  rw [houter, Option.map_some, ← hnext.naturalSize_eq'] at hplaced
  have hscrolls : next.kind? panel.viewport = some (.scrollView offset) := by
    rw [hmoved.kind?_eq, h.scrolls]
  apply (layout_ends (hnext.standing h hscrolls) hplaced).mono
  intro _ after ⟨hafter, hlaid⟩
  rw [hnext.room_eq] at hlaid
  exact ⟨hnext.trans hafter, hlaid⟩

end ViewMotion.SavePanel
