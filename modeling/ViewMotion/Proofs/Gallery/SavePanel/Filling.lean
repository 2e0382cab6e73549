import ViewMotion.Proofs.Gallery.SavePanel.Listing

/-!
This module contains what the rows of a save panel are after a row has been appended, and after all
of them have been replaced.
-/

namespace ViewMotion

namespace Scene

variable {K T A X : Type}

/--
Some views have been given a group, and everything else is as before.
-/
structure Grouped (vs : List ViewId) (group : Nat) (scene after : Scene K T A X) : Prop where
  shape : ViewTree.SameShape scene.tree after.tree
  kinds_eq : after.tree.kinds = scene.tree.kinds
  group?_eq (v : ViewId) :
    after.tree.group? v = if v ∈ vs then some group else scene.tree.group? v
  wellFormed (h : scene.tree.WellFormed) : after.tree.WellFormed
  others_eq : after = { scene with tree := after.tree }

section Grouping

variable {scene : Scene K T A X} {v : ViewId} {vs : List ViewId}

theorem setGroup_ends (h : v ∈ scene.tree.kinds) (group : Nat) :
    Succeeds (setGroup v group) scene fun _ after => Grouped [v] group scene after := by
  have hset : ∃ tree, scene.tree.setGroup v group = .ok tree := by
    unfold ViewTree.setGroup
    rw [if_pos (ViewTree.contains_iff_mem.mpr h)]
    exact ⟨_, rfl⟩
  rcases hset with ⟨tree, hset⟩
  have hscene : setGroup v group scene = .ok () { scene with tree } := by
    unfold setGroup
    rw [hset]
  apply Succeeds.of_ok hscene
  have htree := (ViewTree.setGroup_eq_ok_iff.mp hset).2
  constructor
  case shape =>
    dsimp only
    rw [htree]
    exact ⟨rfl, fun _ => Iff.rfl, fun _ => Iff.rfl, rfl, rfl⟩
  case kinds_eq =>
    dsimp only
    rw [htree]
  case group?_eq =>
    intro w
    dsimp only
    rw [htree]
    unfold ViewTree.group?
    rw [Std.ExtTreeMap.getElem?_insert]
    simp only [Std.LawfulEqOrd.compare_eq_iff_eq, List.mem_singleton, eq_comm (a := w)]
  case wellFormed => exact fun hformed => hformed.setGroup hset
  case others_eq => rfl

theorem forM_setGroup_ends (h : ∀ v ∈ vs, v ∈ scene.tree.kinds) (group : Nat) :
    Succeeds (vs.forM fun v => setGroup v group) scene fun _ after =>
      Grouped vs group scene after := by
  induction vs generalizing scene with
  | nil => exact ⟨.refl _, rfl, fun _ => rfl, fun hformed => hformed, rfl⟩
  | cons v vs ih =>
    apply Ends.forM_cons
    apply (setGroup_ends (h v List.mem_cons_self) group).mono
    · intro _ next hnext
      have hrest (w) (hw : w ∈ vs) : w ∈ next.tree.kinds := by
        rw [hnext.kinds_eq]
        exact h w (List.mem_cons_of_mem v hw)
      apply (ih hrest).mono
      intro _ after hafter
      constructor
      case shape => exact hnext.shape.trans hafter.shape
      case kinds_eq => exact hafter.kinds_eq.trans hnext.kinds_eq
      case group?_eq =>
        intro w
        rw [hafter.group?_eq, hnext.group?_eq]
        by_cases hw : w ∈ vs <;> simp [hw]
      case wellFormed => exact fun hformed => hafter.wellFormed (hnext.wellFormed hformed)
      case others_eq =>
        rw [hafter.others_eq, hnext.others_eq]

end Grouping

end Scene

namespace SavePanel

variable {K T C X : Type} {panel : SavePanel} {layer v : ViewId} {base scene : GalleryScene K T C X}

theorem list_setList (list : RowList) (scene : GalleryScene K T C X) :
    panel.list (panel.setList list scene).store = list := by
  unfold SavePanel.list setList
  rw [Std.ExtTreeMap.getElem?_insert_self]
  rfl

theorem rows_setRows (rows : List Row) (scene : GalleryScene K T C X) :
    panel.rows (panel.setRows rows scene).store = rows := by
  rw [SavePanel.rows, setRows, list_setList]

theorem groups_setRows (rows : List Row) (scene : GalleryScene K T C X) :
    (panel.list (panel.setRows rows scene).store).groups = (panel.list scene.store).groups := by
  rw [setRows, list_setList]

/--
Rows have been put behind those that there were, with groups that have not been given before.
-/
structure Lengthened (panel : SavePanel) (layer : ViewId) (base scene : GalleryScene K T C X)
    (count : Nat) (after : GalleryScene K T C X) : Prop where
  opened : panel.Open layer base after
  rows_eq : ∃ added, panel.rows after.store = panel.rows scene.store ++ added ∧
    added.length = count ∧ ∀ row ∈ added, (panel.list scene.store).groups.upcoming ≤ row.group
  upcoming_le : (panel.list scene.store).groups.upcoming ≤ (panel.list after.store).groups.upcoming
  popups_eq : after.store.popups = scene.store.popups

/--
Nothing has been laid out yet.
-/
structure Appended (panel : SavePanel) (layer : ViewId) (base scene : GalleryScene K T C X)
    (count : Nat) (after : GalleryScene K T C X) : Prop
    extends panel.Lengthened layer base scene count after where
  viewport_eq : after.tree.kind? panel.viewport = scene.tree.kind? panel.viewport

theorem list_takeGroup (scene : GalleryScene K T C X) :
    panel.list (panel.takeGroup scene).2.store =
      ⟨panel.rows scene.store, ⟨(panel.list scene.store).groups.upcoming + 1⟩⟩ :=
  list_setList _ scene

section Row

variable {row : Row} {next : GalleryScene K T C X}

theorem cells_map_fst (panel : SavePanel) (row : Row) :
    (row.cells.map fun cell => (cell, panel.content)).map Prod.fst = row.cells := by
  rw [List.map_map]
  exact List.map_id _

/--
The cells of a row have been added with the next group. The row itself is not in the list yet.
-/
structure Celled (panel : SavePanel) (row : Row) (scene next : GalleryScene K T C X) : Prop where
  extended : scene.named.Extends (row.cells.map fun cell => (cell, panel.content)) next.named
  shown : row.Shown next.tree
  group_eq : row.group = (panel.list scene.store).groups.upcoming
  rows_eq : panel.rows next.store = panel.rows scene.store
  upcoming_eq : (panel.list next.store).groups.upcoming = row.group + 1
  popups_eq : next.store.popups = scene.store.popups
  handlers_eq : next.handlers = scene.handlers
  animator_eq : next.animator = scene.animator

theorem Celled.of_grouped {grown : GalleryScene K T C X}
    (hgrown : Scene.Grown (row.cells.map fun cell => (cell, panel.content)) scene grown)
    (hicon : grown.tree.kind? row.icon = some (.image "folder_open"))
    (hname : ∃ text, grown.tree.kind? row.name = some (.label text))
    (hsize : ∃ text, grown.tree.kind? row.size = some (.label text))
    (hlink : grown.tree.kind? row.link = some (.link "Save" LinkRole.save.code))
    (hgroup : row.group = (panel.takeGroup grown).1)
    (hgrouped : Scene.Grouped row.cells row.group (panel.takeGroup grown).2 next) :
    panel.Celled row scene next := by
  have hkind (v : ViewId) : next.tree.kind? v = grown.tree.kind? v := by
    unfold ViewTree.kind?
    rw [hgrouped.kinds_eq]
    rfl
  have hstore : next.store = (panel.takeGroup grown).2.store := by
    rw [hgrouped.others_eq]
  constructor
  case extended =>
    have hnext : next.named = { grown.named with tree := next.tree } := by
      rw [hgrouped.others_eq]
      rfl
    rw [hnext]
    apply hgrown.named_extends.of_sameShape hgrouped.shape
      (hgrouped.wellFormed hgrown.sound.wellFormed) fun v _ => hkind v
    intro v hv
    rw [cells_map_fst] at hv
    exact (hgrouped.group?_eq v).trans (if_neg hv)
  case shown =>
    constructor
    case icon => exact (hkind _).trans hicon
    case name => exact hname.imp fun _ => (hkind _).trans
    case size => exact hsize.imp fun _ => (hkind _).trans
    case link => exact (hkind _).trans hlink
    case group => exact fun hv => (hgrouped.group?_eq _).trans (if_pos hv)
  case group_eq =>
    rw [hgroup, ← hgrown.store_eq]
    rfl
  case rows_eq => rw [SavePanel.rows, hstore, list_takeGroup, hgrown.store_eq]
  case upcoming_eq =>
    rw [hstore, list_takeGroup, hgroup]
    rfl
  case popups_eq =>
    rw [hstore]
    change grown.store.popups = _
    rw [hgrown.store_eq]
  case handlers_eq =>
    rw [hgrouped.others_eq]
    exact hgrown.handlers_eq
  case animator_eq =>
    rw [hgrouped.others_eq]
    exact hgrown.animator_eq

section Celled

variable (h : panel.Open layer base scene) (hcelled : panel.Celled row scene next)

include h hcelled

theorem Open.not_cell {v : ViewId} (hv : v ∈ panel.views (panel.rows scene.store)) :
    v ∉ (row.cells.map fun cell => (cell, panel.content)).map Prod.fst :=
  hcelled.extended.not_added_of_mem ((h.mem_kinds v).mpr (Or.inl hv))

theorem Open.kind?_celled {v : ViewId} (hv : v ∈ panel.views (panel.rows scene.store)) :
    next.tree.kind? v = scene.tree.kind? v :=
  hcelled.extended.kind?_eq (h.not_cell hcelled hv)

theorem Open.shown_celled {r : Row} (hr : r ∈ panel.rows scene.store ++ [row]) :
    r.Shown next.tree := by
  cases List.mem_append.mp hr with
  | inl hr =>
    have hcell {v : ViewId} (hv : v ∈ r.cells) : v ∈ panel.views (panel.rows scene.store) :=
      List.mem_append_right _ (List.mem_flatMap_of_mem hr hv)
    apply (h.shown r hr).of_eq fun v hv => h.kind?_celled hcelled (hcell hv)
    exact fun v hv => hcelled.extended.group?_eq (h.not_cell hcelled (hcell hv))
  | inr hr =>
    rw [List.mem_singleton.mp hr]
    exact hcelled.shown

theorem Open.listed : panel.Open layer base (panel.setRows
    (panel.rows (panel.watch row.link next).store ++ [row]) (panel.watch row.link next)) := by
  have hrows : panel.rows (panel.watch row.link next).store = panel.rows scene.store :=
    hcelled.rows_eq
  have hupcoming : (panel.list (panel.watch row.link next).store).groups.upcoming =
      row.group + 1 := hcelled.upcoming_eq
  rw [hrows]
  constructor
  case base_tidy => exact h.base_tidy
  case layer_mem => exact h.layer_mem
  case grown =>
    rw [rows_setRows, entries_append, List.flatMap_singleton]
    exact h.grown.trans hcelled.extended
  case title => exact (h.kind?_celled hcelled (by simp [views])).trans h.title
  case saveAll => exact (h.kind?_celled hcelled (by simp [views])).trans h.saveAll
  case viewport =>
    rcases h.viewport with ⟨offset, hscrolls⟩
    exact ⟨offset, (h.kind?_celled hcelled (by simp [views])).trans hscrolls⟩
  case shown =>
    rw [rows_setRows]
    exact fun r hr => h.shown_celled hcelled hr
  case group_lt =>
    rw [rows_setRows, groups_setRows, hupcoming]
    intro r hr
    cases List.mem_append.mp hr with
    | inl hr =>
      rw [hcelled.group_eq]
      exact Nat.lt_succ_of_lt (h.group_lt r hr)
    | inr hr =>
      rw [List.mem_singleton.mp hr]
      exact Nat.lt_succ_self _
  case increasing =>
    rw [rows_setRows, List.pairwise_append]
    refine ⟨h.increasing, List.pairwise_singleton _ _, ?_⟩
    intro r hr r' hr'
    rw [List.mem_singleton.mp hr', hcelled.group_eq]
    exact h.group_lt r hr
  case code?_eq =>
    intro v kind
    rw [rows_setRows]
    change (next.register row.link .linkClicked (.followLink panel)).handlers.code? v kind = _
    rw [Scene.register_code?, hcelled.handlers_eq, h.code?_eq]
    simp only [mem_links_concat, eq_comm (a := kind)]
    by_cases hkind : EventKind.linkClicked = kind <;> by_cases hv : row.link = v <;>
      simp [hkind, hv]
  case moving =>
    intro v hv
    apply h.moving
    rw [← hcelled.animator_eq]
    exact hv

theorem Open.appended : panel.Appended layer base scene 1 (panel.setRows
    (panel.rows (panel.watch row.link next).store ++ [row]) (panel.watch row.link next)) := by
  have hrows : panel.rows (panel.watch row.link next).store = panel.rows scene.store :=
    hcelled.rows_eq
  have hupcoming : (panel.list (panel.watch row.link next).store).groups.upcoming =
      row.group + 1 := hcelled.upcoming_eq
  refine ⟨⟨h.listed hcelled, ⟨[row], ?_, rfl, ?_⟩, ?_, hcelled.popups_eq⟩,
    h.kind?_celled hcelled (by simp [views])⟩
  · rw [rows_setRows, hrows]
  · intro r hr
    rw [List.mem_singleton.mp hr, hcelled.group_eq]
  · rw [groups_setRows, hupcoming, hcelled.group_eq]
    exact Nat.le_succ _

end Celled

end Row

variable [Scalar K]

/--
Wherever there is a content, a row can be appended to it.
-/
theorem append_celled (h : scene.named.Sound) (hcontent : panel.content ∈ scene.tree.kinds)
    (file : VideoFile) :
    Succeeds (panel.append file) scene fun row after => ∃ next, panel.Celled row scene next ∧
      after = panel.setRows (panel.rows (panel.watch row.link next).store ++ [row])
        (panel.watch row.link next) := by
  unfold append
  apply (Scene.add_grown h hcontent _).bind_ends
  intro icon scene₁ hadd₁
  rcases hadd₁ with ⟨hgrown₁, hicon⟩
  apply (hgrown₁.add ((hgrown₁.mem_kinds _).mpr (Or.inr hcontent)) _).bind_ends
  intro name scene₂ hadd₂
  rcases hadd₂ with ⟨hgrown₂, hstep₂, hname⟩
  apply (hgrown₂.add ((hgrown₂.mem_kinds _).mpr (Or.inr hcontent)) _).bind_ends
  intro size scene₃ hadd₃
  rcases hadd₃ with ⟨hgrown₃, hstep₃, hsize⟩
  apply (hgrown₃.add ((hgrown₃.mem_kinds _).mpr (Or.inr hcontent)) _).bind_ends
  intro link scene₄ hadd₄
  rcases hadd₄ with ⟨hgrown₄, hstep₄, hlink⟩
  apply Ends.modifyGet_bind
  let row : Row := ⟨(panel.takeGroup scene₄).1, icon, name, size, link⟩
  have hadded (v) (hv : v ∈ row.cells) : v ∈ (panel.takeGroup scene₄).2.tree.kinds := by
    apply (hgrown₄.mem_kinds v).mpr (Or.inl _)
    exact hv
  apply (Scene.forM_setGroup_ends hadded row.group).bind_ends
  intro _ next hgrouped
  have hcelled : panel.Celled row scene next := .of_grouped hgrown₄
    (hstep₄.kind?_of_some (hstep₃.kind?_of_some (hstep₂.kind?_of_some hicon)))
    ⟨_, hstep₄.kind?_of_some (hstep₃.kind?_of_some hname)⟩ ⟨_, hstep₄.kind?_of_some hsize⟩ hlink
    rfl hgrouped
  exact ⟨next, hcelled, rfl⟩

theorem append_error (hcontent : panel.content ∉ scene.tree.kinds) (file : VideoFile) :
    panel.append file scene = .error (.missing panel.content) scene := by
  unfold append
  rw [Ends.bind_eq_of_error (Scene.add_error hcontent _)]

theorem append_ends (h : panel.Open layer base scene) (file : VideoFile) :
    Succeeds (panel.append file) scene fun _ after => panel.Appended layer base scene 1 after := by
  have hcontent : panel.content ∈ scene.tree.kinds :=
    (h.mem_kinds _).mpr (Or.inl (by simp [views]))
  apply (append_celled h.grown.sound hcontent file).mono
  rintro row after ⟨next, hcelled, hafter⟩
  rw [hafter]
  exact h.appended hcelled

omit [Scalar K] in
theorem Open.appended_nil (h : panel.Open layer base scene) :
    panel.Appended layer base scene 0 scene :=
  ⟨⟨h, ⟨[], (List.append_nil _).symm, rfl, fun _ hrow => absurd hrow List.not_mem_nil⟩,
    Nat.le_refl _, rfl⟩, rfl⟩

omit [Scalar K] in
theorem Appended.trans {next after : GalleryScene K T C X} {m n : Nat}
    (h : panel.Appended layer base scene m next) (h' : panel.Appended layer base next n after) :
    panel.Appended layer base scene (m + n) after := by
  rcases h.rows_eq with ⟨added, hrows, hlength, hgroups⟩
  rcases h'.rows_eq with ⟨others, hrows', hlength', hgroups'⟩
  refine ⟨?_, h'.viewport_eq.trans h.viewport_eq⟩
  constructor
  case opened => exact h'.opened
  case rows_eq =>
    refine ⟨added ++ others, ?_, ?_, ?_⟩
    · rw [hrows', hrows, List.append_assoc]
    · rw [List.length_append, hlength, hlength']
    · intro row hrow
      cases List.mem_append.mp hrow with
      | inl hrow => exact hgroups row hrow
      | inr hrow => exact Nat.le_trans h.upcoming_le (hgroups' row hrow)
  case upcoming_le => exact Nat.le_trans h.upcoming_le h'.upcoming_le
  case popups_eq => exact h'.popups_eq.trans h.popups_eq

theorem forM_append_ends (h : panel.Open layer base scene) (files : List VideoFile) :
    Succeeds (files.forM fun file => discard (panel.append file)) scene fun _ after =>
      panel.Appended layer base scene files.length after := by
  induction files generalizing scene with
  | nil => exact h.appended_nil
  | cons file files ih =>
    apply Ends.forM_cons
    apply Ends.discard
    apply (append_ends h file).mono
    intro _ next hnext
    apply (ih hnext.opened).mono
    intro _ after hafter
    rw [List.length_cons, Nat.add_comm]
    exact hnext.trans hafter

omit [Scalar K] in
theorem onRows_ends {ε α : Type} {action : List Row → EStateM ε (ViewTree K) α}
    {post : α → GalleryScene K T C X → Prop} {failed : ε → GalleryScene K T C X → Prop}
    (h : Ends (action (panel.rows scene.store)) scene.tree
      (fun result tree => post result { scene with tree })
      fun e tree => failed e { scene with tree }) :
    Ends (panel.onRows action) scene post failed :=
  Ends.get_bind (Scene.onTree_ends h)

section Clearing

omit [Scalar K]

theorem Open.cleared (h : panel.Open layer base scene) {gone : List ViewId}
    (hgone : ∀ w, w ∈ gone ↔ w ∈ (panel.rows scene.store).flatMap Row.cells)
    {cleared : GalleryScene K T C X} (hwithout : Scene.Without gone scene cleared) :
    panel.Open layer base (panel.setRows [] cleared) := by
  have hrows : panel.rows (panel.setRows [] cleared).store = [] := rows_setRows [] cleared
  have hframe {v : ViewId} (hv : v ∈ panel.views []) : v ∉ gone := by
    have hnodup := h.nodup
    unfold views at hnodup hv
    rw [List.nodup_append] at hnodup
    rw [List.flatMap_nil, List.append_nil] at hv
    rw [hgone]
    exact fun hcell => hnodup.2.2 v hv v hcell rfl
  have hkind {v : ViewId} (hv : v ∈ panel.views []) :
      cleared.tree.kind? v = scene.tree.kind? v := by
    rw [hwithout.kind?_eq, if_neg (hframe hv)]
  constructor
  case base_tidy => exact h.base_tidy
  case layer_mem => exact h.layer_mem
  case grown =>
    rw [hrows, ← entries_filter h.nodup hgone]
    apply hwithout.extends_prune h.grown
    · intro v hv
      rw [entries_map_fst]
      exact List.mem_append_right _ ((hgone v).mp hv)
    · intro p hp v hv
      have hp := (hgone p).mp hp
      rw [(h.encloses_cell_iff hp v).mp (Relation.ReflTransGen.single hv), hgone]
      exact hp
  case title => exact (hkind (by simp [views])).trans h.title
  case saveAll => exact (hkind (by simp [views])).trans h.saveAll
  case viewport => exact h.viewport.imp fun _ => (hkind (by simp [views])).trans
  case shown =>
    rw [hrows]
    exact fun _ hrow => absurd hrow List.not_mem_nil
  case group_lt =>
    rw [hrows]
    exact fun _ hrow => absurd hrow List.not_mem_nil
  case increasing =>
    rw [hrows]
    exact List.Pairwise.nil
  case code?_eq =>
    intro v kind
    change cleared.handlers.code? v kind = _
    rw [hwithout.code?_eq, hrows]
    split
    · next hv =>
      rw [if_neg fun hlink => hframe (views_of_links hlink.2) hv]
      symm
      apply h.base_tidy.code?_eq_none (h.fresh (List.mem_append_right _ ((hgone v).mp hv)))
    · next hv =>
      have hlinks : v ∈ panel.links (panel.rows scene.store) ↔ v ∈ panel.links [] := by
        have hrow : v ∉ (panel.rows scene.store).map Row.link := by
          intro hlink
          rcases List.mem_map.mp hlink with ⟨row, hrow, rfl⟩
          exact hv ((hgone _).mpr (link_mem_cells hrow))
        simp [links, hrow]
      simp only [h.code?_eq, hlinks]
  case moving =>
    intro v hv
    exact h.moving (hwithout.of_isMoving hv).2

end Clearing

/--
There are the rows that a panel starts with, with groups that have not been given before.
-/
structure Refilled (panel : SavePanel) (layer : ViewId) (base scene after : GalleryScene K T C X) :
    Prop where
  opened : panel.Open layer base after
  length_eq : (panel.rows after.store).length = VideoFile.listed.length
  upcoming_le : (panel.list scene.store).groups.upcoming ≤ (panel.list after.store).groups.upcoming
  group_le : ∀ row ∈ panel.rows after.store,
    (panel.list scene.store).groups.upcoming ≤ row.group
  popups_eq : after.store.popups = scene.store.popups

variable [Clock T]

theorem refill_ends (h : panel.Open layer base scene) :
    Succeeds panel.refill scene fun _ after => panel.Refilled layer base scene after ∧
      ∃ x, after.tree.kind? panel.viewport = some (.scrollView (clamped (Scalar.max 0 x) 0)) := by
  obtain ⟨gone, cleared, hclear, hgone, hwithout⟩ := Scene.exists_clear h.grown.sound panel.content
  have hcells (w : ViewId) : w ∈ gone ↔ w ∈ (panel.rows scene.store).flatMap Row.cells := by
    rw [hgone, h.subviews_content]
    constructor
    · intro ⟨u, hu, henc⟩
      rw [(h.encloses_cell_iff hu w).mp henc]
      exact hu
    · exact fun hw => ⟨w, hw, .refl⟩
  have hopen := h.cleared hcells hwithout
  unfold refill
  apply Ends.bind_ok hclear
  apply Ends.modify_bind
  rcases hopen.viewport with ⟨offset, hscrolls⟩
  apply Ends.bind
  apply Scene.onTree_ends
  apply (scrollTo_ends (hopen.standing hscrolls) 0).mono
  · intro _ tree hscrolled
    apply (forM_append_ends (hopen.arranged hscrolled.arranged hscrolled.scrolls) _).bind_ends
    intro _ filled hfilled
    have hviewport := hfilled.viewport_eq.trans hscrolled.scrolls
    apply onRows_ends
    apply (layoutGrid_ends (hfilled.opened.standing hviewport)).mono
    · intro _ last ⟨hmoved, _⟩
      have hlast := (hmoved.kind?_eq panel.viewport).trans hviewport
      refine ⟨?_, _, hlast⟩
      rcases hfilled.rows_eq with ⟨added, hrows, hlength, hgroups⟩
      have hupcoming := hfilled.upcoming_le
      change panel.rows filled.store = panel.rows (panel.setRows [] cleared).store ++ _ at hrows
      change ∀ row ∈ added, (panel.list (panel.setRows [] cleared).store).groups.upcoming ≤ _
        at hgroups
      change (panel.list (panel.setRows [] cleared).store).groups.upcoming ≤ _ at hupcoming
      rw [rows_setRows, List.nil_append] at hrows
      rw [groups_setRows, hwithout.store_eq] at hgroups hupcoming
      constructor
      case opened => exact hfilled.opened.arranged (.of_moved hmoved) hlast
      case length_eq =>
        change (panel.rows filled.store).length = _
        rw [hrows]
        exact hlength
      case upcoming_le => exact hupcoming
      case group_le =>
        change ∀ row ∈ panel.rows filled.store, _
        rw [hrows]
        exact hgroups
      case popups_eq =>
        change filled.store.popups = _
        rw [hfilled.popups_eq]
        change cleared.store.popups = _
        rw [hwithout.store_eq]

end SavePanel

end ViewMotion
