import ViewMotion.Gallery.SavePanel.Rows
import ViewMotion.Proofs.Gallery.Dispatch
import ViewMotion.Proofs.Gallery.SavePanel.Arrangement

/-!
This module contains what holds for a save panel at any time: its rows are those that the tree has,
in the same order, and there is a handler for each of its links and for nothing else.
-/

namespace ViewMotion

/--
The cells of the row are what they were made as, and have its group.
-/
structure Row.Shown {K : Type} (row : Row) (tree : ViewTree K) : Prop where
  icon : tree.kind? row.icon = some (.image "folder_open")
  name : ∃ text, tree.kind? row.name = some (.label text)
  size : ∃ text, tree.kind? row.size = some (.label text)
  link : tree.kind? row.link = some (.link "Save" LinkRole.save.code)
  group {cell : ViewId} (h : cell ∈ row.cells) : tree.group? cell = some row.group

theorem Row.Shown.of_eq {K : Type} {row : Row} {tree after : ViewTree K} (h : row.Shown tree)
    (hkind : ∀ v ∈ row.cells, after.kind? v = tree.kind? v)
    (hgroup : ∀ v ∈ row.cells, after.group? v = tree.group? v) : row.Shown after := by
  constructor
  case icon => rw [hkind _ (by simp [Row.cells]), h.icon]
  case name =>
    rw [hkind _ (by simp [Row.cells])]
    exact h.name
  case size =>
    rw [hkind _ (by simp [Row.cells])]
    exact h.size
  case link => rw [hkind _ (by simp [Row.cells]), h.link]
  case group =>
    intro cell hcell
    rw [hgroup cell hcell, h.group hcell]

namespace SavePanel

variable {K T C X : Type} {panel : SavePanel} {layer v : ViewId} {rows : List Row}

def entries (panel : SavePanel) (layer : ViewId) (rows : List Row) : List (ViewId × ViewId) :=
  [(panel.outer, layer), (panel.bar, panel.outer), (panel.title, panel.bar),
    (panel.saveAll, panel.bar), (panel.viewport, panel.outer), (panel.content, panel.viewport)] ++
    (rows.flatMap Row.cells).map fun cell => (cell, panel.content)

def links (panel : SavePanel) (rows : List Row) : List ViewId :=
  panel.title :: panel.saveAll :: rows.map Row.link

theorem entries_map_fst (panel : SavePanel) (layer : ViewId) (rows : List Row) :
    (panel.entries layer rows).map Prod.fst = panel.views rows := by
  unfold entries views
  rw [List.map_append, List.map_map]
  apply congrArg _ (List.map_id _)

theorem entries_append (panel : SavePanel) (layer : ViewId) (rows others : List Row) :
    panel.entries layer (rows ++ others) = panel.entries layer rows ++
      (others.flatMap Row.cells).map fun cell => (cell, panel.content) := by
  unfold entries
  rw [List.flatMap_append, List.map_append, List.append_assoc]

theorem entries_filter (hnodup : (panel.views rows).Nodup) {gone : List ViewId}
    (hgone : ∀ w, w ∈ gone ↔ w ∈ rows.flatMap Row.cells) :
    (panel.entries layer rows).filter (·.1 ∉ gone) = panel.entries layer [] := by
  simp only [views, List.cons_append, List.nil_append, List.nodup_cons, List.mem_cons, not_or]
    at hnodup
  have hcells : ((rows.flatMap Row.cells).map fun cell => (cell, panel.content)).filter
      (·.1 ∉ gone) = [] := by
    rw [List.filter_eq_nil_iff]
    intro entry hentry
    rcases List.mem_map.mp hentry with ⟨cell, hcell, rfl⟩
    simpa using (hgone cell).mpr hcell
  unfold entries
  rw [List.filter_append, hcells, List.filter_eq_self.mpr]
  · rfl
  · intro entry hentry
    rw [decide_eq_true_iff, hgone]
    simp only [List.mem_cons, List.not_mem_nil, or_false] at hentry
    rcases hentry with rfl | rfl | rfl | rfl | rfl | rfl
    · exact hnodup.1.2.2.2.2.2
    · exact hnodup.2.1.2.2.2.2
    · exact hnodup.2.2.1.2.2.2
    · exact hnodup.2.2.2.1.2.2
    · exact hnodup.2.2.2.2.1.2
    · exact hnodup.2.2.2.2.2.1

theorem link_mem_cells {row : Row} (h : row ∈ rows) : row.link ∈ rows.flatMap Row.cells := by
  rw [List.mem_flatMap]
  exact ⟨row, h, by simp [Row.cells]⟩

theorem link_mem_links {row : Row} (h : row ∈ rows) : row.link ∈ panel.links rows :=
  List.mem_cons_of_mem _ (List.mem_cons_of_mem _ (List.mem_map_of_mem h))

theorem mem_links_iff :
    v ∈ panel.links rows ↔ v = panel.saveAll ∨ v ∈ panel.title :: rows.map Row.link := by
  unfold links
  rw [List.mem_cons, List.mem_cons, or_left_comm, List.mem_cons]

theorem views_of_links (h : v ∈ panel.links rows) : v ∈ panel.views rows := by
  unfold links at h
  rw [List.mem_cons, List.mem_cons, List.mem_map] at h
  unfold views
  rcases h with rfl | rfl | ⟨row, hrow, rfl⟩
  · simp
  · simp
  · exact List.mem_append_right _ (link_mem_cells hrow)

theorem mem_links_concat {row : Row} :
    v ∈ panel.links (rows ++ [row]) ↔ row.link = v ∨ v ∈ panel.links rows := by
  unfold links
  rw [List.map_append, List.map_singleton, ← List.cons_append, ← List.cons_append,
    List.mem_append, List.mem_singleton, eq_comm (a := row.link), or_comm]

section Below

variable (hnodup : (panel.views rows).Nodup)

theorem below_layer (hlayer : layer ∉ panel.views rows) :
    below (panel.entries layer rows) layer = [panel.outer] := by
  simp only [views, List.cons_append, List.nil_append, List.mem_cons, not_or] at hlayer
  simp [entries, below_cons, below_map, Ne.symm hlayer.1, Ne.symm hlayer.2.1,
    Ne.symm hlayer.2.2.2.2.1, Ne.symm hlayer.2.2.2.2.2.1]

include hnodup

theorem below_content (hlayer : layer ∉ panel.views rows) :
    below (panel.entries layer rows) panel.content = rows.flatMap Row.cells := by
  have hne : layer ≠ panel.content := by
    intro heq
    apply hlayer
    simp [views, heq]
  simp only [views, List.cons_append, List.nil_append, List.nodup_cons, List.mem_cons, not_or]
    at hnodup
  simp [entries, below_cons, below_map, hne, hnodup.1, hnodup.2.1, hnodup.2.2.2.2.1]

theorem below_cell (hlayer : layer ∉ panel.views rows) (hv : v ∈ rows.flatMap Row.cells) :
    below (panel.entries layer rows) v = [] := by
  have hne : layer ≠ v := by
    intro heq
    apply hlayer
    rw [heq]
    exact List.mem_append_right _ hv
  have hother {w : ViewId} (hw : w ∉ rows.flatMap Row.cells) : w ≠ v := fun heq => hw (heq ▸ hv)
  simp only [views, List.cons_append, List.nil_append, List.nodup_cons, List.mem_cons, not_or]
    at hnodup
  simp [entries, below_cons, below_map, hne, hother hnodup.1.2.2.2.2.2, hother hnodup.2.1.2.2.2.2,
    hother hnodup.2.2.2.2.1.2, hother hnodup.2.2.2.2.2.1]

end Below

/--
All that has been added to `base` is the panel with its rows.
-/
structure Open (panel : SavePanel) (layer : ViewId) (base scene : GalleryScene K T C X) : Prop where
  base_tidy : base.Tidy
  layer_mem : layer ∈ base.tree.kinds
  grown : base.named.Extends (panel.entries layer (panel.rows scene.store)) scene.named
  title : scene.tree.kind? panel.title = some (.link "Resource list" LinkRole.setting.code)
  saveAll : scene.tree.kind? panel.saveAll = some (.link "Save all" LinkRole.saveAll.code)
  viewport : ∃ offset, scene.tree.kind? panel.viewport = some (.scrollView offset)
  shown : ∀ row ∈ panel.rows scene.store, row.Shown scene.tree
  group_lt : ∀ row ∈ panel.rows scene.store, row.group < (panel.list scene.store).groups.upcoming
  increasing : (panel.rows scene.store).Pairwise (·.group < ·.group)
  code?_eq (v : ViewId) (kind : EventKind) : scene.handlers.code? v kind =
    if kind = .linkClicked ∧ v ∈ panel.links (panel.rows scene.store) then some (.followLink panel)
    else base.handlers.code? v kind
  moving {v : ViewId} (hv : scene.animator.isMoving v) : base.animator.isMoving v

namespace Open

variable {base scene : GalleryScene K T C X} (h : panel.Open layer base scene)

include h

theorem nodup : (panel.views (panel.rows scene.store)).Nodup := by
  rw [← entries_map_fst panel layer]
  exact h.grown.nodup

theorem layer_not_mem : layer ∉ panel.views (panel.rows scene.store) := by
  rw [← entries_map_fst panel layer]
  exact h.grown.not_added_of_mem h.layer_mem

theorem mem_kinds (v : ViewId) : v ∈ scene.tree.kinds ↔
    v ∈ panel.views (panel.rows scene.store) ∨ v ∈ base.tree.kinds := by
  rw [← entries_map_fst panel layer]
  exact h.grown.mem_kinds v

theorem fresh (hv : v ∈ panel.views (panel.rows scene.store)) : ¬ base.names.Issued v := by
  rw [← entries_map_fst panel layer] at hv
  exact h.grown.fresh hv

theorem issued (hv : v ∈ panel.views (panel.rows scene.store)) : scene.names.Issued v :=
  h.grown.sound.issued ((h.mem_kinds v).mpr (Or.inl hv))

theorem subviews_layer :
    scene.tree.subviews layer = base.tree.subviews layer ++ [panel.outer] := by
  rw [← below_layer h.layer_not_mem]
  exact h.grown.subviews_eq layer

theorem subviews_eq (hv : v ∈ panel.views (panel.rows scene.store)) :
    scene.tree.subviews v = below (panel.entries layer (panel.rows scene.store)) v := by
  rw [← entries_map_fst panel layer] at hv
  exact h.grown.subviews_added hv

theorem subviews_content :
    scene.tree.subviews panel.content = (panel.rows scene.store).flatMap Row.cells := by
  rw [h.subviews_eq (by simp [views]), below_content h.nodup h.layer_not_mem]

theorem encloses_cell_iff (hv : v ∈ (panel.rows scene.store).flatMap Row.cells) (w : ViewId) :
    scene.tree.Encloses v w ↔ w = v := by
  have hnil : scene.tree.subviews v = [] := by
    rw [h.subviews_eq (List.mem_append_right _ hv), below_cell h.nodup h.layer_not_mem hv]
  constructor
  · intro henc
    induction henc with
    | refl => rfl
    | @tail x y _ hy ih =>
      rw [ih, hnil] at hy
      contradiction
  · intro heq
    rw [heq]
    exact .refl

theorem encloses_outer_iff (w : ViewId) :
    scene.tree.Encloses panel.outer w ↔ w ∈ panel.views (panel.rows scene.store) := by
  have hbelow {x p : ViewId} (hx : (x, p) ∈ panel.entries layer (panel.rows scene.store)) :
      x ∈ scene.tree.subviews p := by
    have hp := h.grown.subviews_eq p
    change scene.tree.subviews p = _ at hp
    rw [hp]
    exact List.mem_append_right _ (mem_below_iff.mpr hx)
  constructor
  · intro henc
    rw [← entries_map_fst panel layer]
    exact h.grown.encloses_added (by simp [entries]) henc
  · intro hw
    have houter : scene.tree.Encloses panel.outer panel.outer := .refl
    have hbar := houter.tail (hbelow (x := panel.bar) (by simp [entries]))
    have hviewport := houter.tail (hbelow (x := panel.viewport) (by simp [entries]))
    have hcontent := hviewport.tail (hbelow (x := panel.content) (by simp [entries]))
    unfold views at hw
    simp only [List.cons_append, List.nil_append, List.mem_cons] at hw
    rcases hw with rfl | rfl | rfl | rfl | rfl | rfl | hw
    · exact houter
    · exact hbar
    · exact hbar.tail (hbelow (by simp [entries]))
    · exact hbar.tail (hbelow (by simp [entries]))
    · exact hviewport
    · exact hcontent
    · refine hcontent.tail (hbelow (List.mem_append_right _ ?_))
      exact List.mem_map_of_mem hw

theorem standing {offset : K}
    (hscrolls : scene.tree.kind? panel.viewport = some (.scrollView offset)) :
    panel.Standing (panel.rows scene.store) offset scene.tree where
  wellFormed := h.grown.sound.wellFormed
  nodup := h.nodup
  mem hv := (h.mem_kinds _).mpr (Or.inl hv)
  scrolls := hscrolls

theorem code?_link (hv : v ∈ panel.links (panel.rows scene.store)) :
    scene.handlers.code? v .linkClicked = some (.followLink panel) := by
  rw [h.code?_eq, if_pos ⟨rfl, hv⟩]

theorem code?_fresh (hv : ¬ base.names.Issued v)
    (hlink : v ∉ panel.links (panel.rows scene.store)) (kind : EventKind) :
    scene.handlers.code? v kind = none := by
  rw [h.code?_eq, if_neg fun hand => hlink hand.2, h.base_tidy.code?_eq_none hv]

end Open

/--
The tree may be another one as long as it looks the same for all views but the viewport.
-/
theorem Open.of_alike {base scene after : GalleryScene K T C X} (h : panel.Open layer base scene)
    (hgrown : base.named.Extends (panel.entries layer (panel.rows scene.store)) after.named)
    (hkind : ∀ v, v ≠ panel.viewport → after.tree.kind? v = scene.tree.kind? v)
    (hgroup : ∀ v, after.tree.group? v = scene.tree.group? v)
    (hscrolls : ∃ offset, after.tree.kind? panel.viewport = some (.scrollView offset))
    (hmoving : ∀ v, after.animator.isMoving v → scene.animator.isMoving v)
    (hhandlers : after.handlers = scene.handlers) (hstore : after.store = scene.store) :
    panel.Open layer base after := by
  have hnodup := h.nodup
  simp only [views, List.cons_append, List.nil_append, List.nodup_cons, List.mem_cons, not_or]
    at hnodup
  constructor
  case base_tidy => exact h.base_tidy
  case layer_mem => exact h.layer_mem
  case grown =>
    rw [hstore]
    exact hgrown
  case title => rw [hkind _ hnodup.2.2.1.2.1, h.title]
  case saveAll => rw [hkind _ hnodup.2.2.2.1.1, h.saveAll]
  case viewport => exact hscrolls
  case shown =>
    intro row hrow
    rw [hstore] at hrow
    apply (h.shown row hrow).of_eq _ fun v _ => hgroup v
    intro v hv
    apply hkind
    intro heq
    apply hnodup.2.2.2.2.1.2
    rw [← heq, List.mem_flatMap]
    exact ⟨row, hrow, hv⟩
  case group_lt =>
    rw [hstore]
    exact h.group_lt
  case increasing =>
    rw [hstore]
    exact h.increasing
  case code?_eq =>
    rw [hstore, hhandlers]
    exact h.code?_eq
  case moving => exact fun hv => h.moving (hmoving _ hv)

section Steps

variable [Scalar K] {base scene : GalleryScene K T C X} (h : panel.Open layer base scene)

include h

theorem Open.arranged {tree : ViewTree K} (harranged : panel.Arranged scene.tree tree) {offset : K}
    (hscrolls : tree.kind? panel.viewport = some (.scrollView offset)) :
    panel.Open layer base { scene with tree } := by
  have hgroup (v : ViewId) : tree.group? v = scene.tree.group? v := by
    unfold ViewTree.group?
    rw [harranged.groups_eq]
  have hviewport : panel.viewport ∈
      (panel.entries layer (panel.rows scene.store)).map Prod.fst := by
    simp [entries]
  have hkind (v : ViewId) (hv : v ≠ panel.viewport) : tree.kind? v = scene.tree.kind? v :=
    harranged.kind?_eq hv
  have hgrown := h.grown.of_sameShape harranged.shape
    (harranged.wellFormed h.grown.sound.wellFormed)
    (fun v hv => hkind v fun heq => hv (heq ▸ hviewport)) fun v _ => hgroup v
  exact h.of_alike hgrown hkind hgroup ⟨offset, hscrolls⟩ (fun _ hv => hv) rfl rfl

theorem Open.frame [Clock T] (now : Instant) : panel.Open layer base (scene.frame now).2 := by
  have hmoved : ViewTree.Moved _ scene.tree (scene.frame now).2.tree :=
    scene.animator.frame_moved now scene.tree
  refine h.of_alike (h.grown.moved hmoved) (fun v _ => hmoved.kind?_eq v) hmoved.group?_eq
    ?_ ?_ ?_ ?_
  · rcases h.viewport with ⟨offset, hscrolls⟩
    exact ⟨offset, (hmoved.kind?_eq _).trans hscrolls⟩
  · exact fun v hv => Scene.isMoving_of_frame hv
  · rfl
  · rfl

end Steps

end SavePanel

end ViewMotion
