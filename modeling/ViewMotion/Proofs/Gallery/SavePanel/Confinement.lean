import ViewMotion.Proofs.Gallery.Composition
import ViewMotion.Proofs.Gallery.SavePanel.Filling
import ViewMotion.Proofs.Scene.Attendance

/-!
This module contains that all views of a save panel lie inside of its outermost one, as long as they
are in the tree at all, and that work on one panel does not touch the rows of another.
-/

namespace ViewMotion

open Scene

namespace SavePanel

variable {K T C X ε α : Type} {panel : SavePanel} {scene next after : GalleryScene K T C X}

section Confining

/--
All views of the panel that are in the tree are inside of its outermost one, which has been put into
another view.
-/
structure Confined (panel : SavePanel) (scene : GalleryScene K T C X) : Prop where
  issued {v : ViewId} (hv : v ∈ panel.views (panel.rows scene.store)) : scene.names.Issued v
  inside {v : ViewId} (hv : v ∈ panel.views (panel.rows scene.store))
    (hmem : v ∈ scene.tree.kinds) : scene.tree.Encloses panel.outer v
  ne_root : panel.outer ≠ scene.tree.root

theorem views_subset {rows others : List Row} (h : rows ⊆ others) :
    panel.views rows ⊆ panel.views others := by
  intro v hv
  unfold views at hv ⊢
  rw [List.mem_append, List.mem_flatMap] at hv ⊢
  exact hv.imp_right fun ⟨row, hrow, hcell⟩ => ⟨row, h hrow, hcell⟩

theorem Confined.stays (h : panel.Confined scene) (hsound : scene.named.Sound)
    (hstays : scene.named.Stays after.named)
    (hrows : panel.rows after.store ⊆ panel.rows scene.store) : panel.Confined after where
  issued hv := hstays.issued (h.issued (views_subset hrows hv))
  inside {v} hv hmem := by
    have hissued := h.issued (views_subset hrows hv)
    have hold := h.inside (views_subset hrows hv) (hstays.mem_of_left hissued hmem)
    exact hstays.encloses hsound hold hissued hmem
  ne_root := by
    rw [show after.tree.root = scene.tree.root from hstays.root_eq]
    exact h.ne_root

theorem Confined.celled {row : Row} (h : panel.Confined scene)
    (hcontent : panel.content ∈ scene.tree.kinds) (hcelled : panel.Celled row scene next) :
    panel.Confined (panel.setRows (panel.rows (panel.watch row.link next).store ++ [row])
      (panel.watch row.link next)) := by
  have hrows : panel.rows (panel.watch row.link next).store = panel.rows scene.store :=
    hcelled.rows_eq
  have hextended := hcelled.extended
  have hnext : panel.Confined next :=
    h.stays hextended.base_sound hextended.stays (by rw [hcelled.rows_eq]; exact List.Subset.refl _)
  have hcases {v : ViewId} (hv : v ∈ panel.views (panel.rows (panel.setRows
      (panel.rows (panel.watch row.link next).store ++ [row])
      (panel.watch row.link next)).store)) :
      v ∈ panel.views (panel.rows next.store) ∨ v ∈ row.cells := by
    rw [rows_setRows, hrows, ← hcelled.rows_eq] at hv
    unfold views at hv ⊢
    rw [List.flatMap_append, List.flatMap_singleton, ← List.append_assoc, List.mem_append] at hv
    exact hv
  have hadded {v : ViewId} (hv : v ∈ row.cells) :
      v ∈ (row.cells.map fun cell => (cell, panel.content)).map Prod.fst := by
    rw [cells_map_fst]
    exact hv
  constructor
  case issued =>
    intro v hv
    cases hcases hv with
    | inl hold => exact hnext.issued hold
    | inr hcell => exact hextended.issued_of_added (hadded hcell)
  case inside =>
    intro v hv hmem
    cases hcases hv with
    | inl hold => exact hnext.inside hold hmem
    | inr hcell =>
      have hmem : panel.content ∈ next.tree.kinds := hextended.mem_of_base hcontent
      have hinside := hnext.inside (v := panel.content) (by simp [views]) hmem
      have hbelow : v ∈ next.tree.subviews panel.content := by
        rw [show next.tree.subviews panel.content = _ from hextended.subviews_eq panel.content,
          List.mem_append, mem_below_iff]
        exact Or.inr (List.mem_map_of_mem hcell)
      exact Relation.ReflTransGen.tail hinside hbelow
  case ne_root => exact hnext.ne_root

end Confining

section Tending

/--
What comes of work on a panel: other panels are spared, and its own views stay inside of it.
-/
structure Tends (panel : SavePanel) (scene after : GalleryScene K T C X) : Prop
    extends panel.Spares scene after where
  confined (hsound : scene.named.Sound) (h : panel.Confined scene) :
    after.named.Sound ∧ panel.Confined after

theorem Tends.refl (panel : SavePanel) (scene : GalleryScene K T C X) :
    panel.Tends scene scene :=
  ⟨.refl panel scene, fun hsound h => ⟨hsound, h⟩⟩

theorem Tends.trans (h : panel.Tends scene next) (h' : panel.Tends next after) :
    panel.Tends scene after where
  toSpares := h.toSpares.trans h'.toSpares
  confined hsound hconfined :=
    h'.confined (h.confined hsound hconfined).1 (h.confined hsound hconfined).2

theorem tends_setRows_nil (panel : SavePanel) (scene : GalleryScene K T C X) :
    panel.Tends scene (panel.setRows [] scene) := by
  refine ⟨panel.spares_setList _ scene, fun hsound h => ⟨hsound, h.stays hsound (.refl hsound) ?_⟩⟩
  rw [rows_setRows]
  exact List.nil_subset _

variable [Scalar K] [Clock T]

theorem tends_append (panel : SavePanel) (file : VideoFile) :
    Along panel.Tends (panel.append file : GalleryM ViewError K T C X Row) := by
  intro scene
  have hspares := spares_append (X := X) panel file scene
  by_cases hsound : scene.named.Sound
  · by_cases hcontent : panel.content ∈ scene.tree.kinds
    · apply (Ends.and hspares (append_celled hsound hcontent file)).mono
      · intro row after ⟨hspared, next, hcelled, hafter⟩
        refine ⟨hspared, fun _ hconfined => ?_⟩
        rw [hafter]
        exact ⟨hcelled.extended.sound, hconfined.celled hcontent hcelled⟩
      · exact fun _ _ hboth => False.elim hboth.2
    · exact Ends.of_error (append_error hcontent file) (.refl panel scene)
  · apply hspares.mono
    · exact fun _ _ hspared => ⟨hspared, fun hsound' => absurd hsound' hsound⟩
    · exact fun _ _ hspared => ⟨hspared, fun hsound' => absurd hsound' hsound⟩

theorem tends_of_sameStore {action : GalleryM ε K T C X α} {learned : α → List ViewId}
    (panel : SavePanel) (h : Composed (BasicStep SameStore) [] action learned) :
    Along panel.Tends action := by
  have hstore : Along SameStore action :=
    h.along_of_writes (fun _ _ hsame => hsame) (fun _ _ hsame => hsame)
      fun _ _ _ hsame hsame' => hsame'.trans hsame
  have htends {scene after : GalleryScene K T C X} (hleads : scene.Leads after)
      (hsame : scene.SameStore after) : panel.Tends scene after := by
    refine ⟨.of_store_eq hsame, ?_⟩
    intro hsound hconfined
    have hstays := (hleads.leadsBut ∅).stays hsound
    refine ⟨hstays.sound, hconfined.stays hsound hstays ?_⟩
    rw [show after.store = scene.store from hsame]
    exact List.Subset.refl _
  intro scene
  apply ((h.careful scene (by simp [Has])).and (hstore scene)).mono
  · exact fun _ _ hboth => htends hboth.1.1 hboth.2
  · exact fun _ _ hboth => htends hboth.1 hboth.2

theorem works_tending (panel : SavePanel) :
    panel.Works fun _ _ _ (action : GalleryM _ K T C X _) _ => Along panel.Tends action where
  clear _ := .step (tends_of_sameStore panel (composed_clear [] panel.content))
  setRows := .step (along_modify panel.tends_setRows_nil)
  onTree h := .step (tends_of_sameStore panel (.step (.onTree h)))
  append file := .step (panel.tends_append file)

theorem tends_refill (panel : SavePanel) :
    Along panel.Tends (panel.refill : GalleryM ViewError K T C X Unit) :=
  (panel.works_tending.refill []).along (Tends.refl panel) (fun _ _ _ => .trans) fun h => h

theorem tends_followLink (panel : SavePanel) (link : ViewId) :
    Along panel.Tends (panel.followLink link : GalleryM ViewError K T C X Unit) :=
  (panel.works_tending.followLink link).along (Tends.refl panel) (fun _ _ _ => .trans) fun h => h

end Tending

end SavePanel

end ViewMotion
