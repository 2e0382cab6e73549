import ViewMotion.Gallery.PopupButton
import ViewMotion.Proofs.Gallery.Composition
import ViewMotion.Proofs.Gallery.SavePanel.Following

/-!
This module contains how a popup button opens a save panel, and how it gets rid of the one that it
has opened before.
-/

namespace ViewMotion

variable {K T C X : Type} {layer v : ViewId} {base scene : GalleryScene K T C X}

namespace SavePanel

variable {panel : SavePanel}

/--
There are the views of a panel without rows, and nobody listens to its links yet.
-/
theorem Open.of_grown (h : scene.Tidy) (hlayer : layer ∈ scene.tree.kinds)
    {grown : GalleryScene K T C X} (hgrown : Scene.Grown (panel.entries layer []) scene grown)
    (htitle : grown.tree.kind? panel.title = some (.link "Resource list" LinkRole.setting.code))
    (hsaveAll : grown.tree.kind? panel.saveAll = some (.link "Save all" LinkRole.saveAll.code))
    (hviewport : ∃ offset, grown.tree.kind? panel.viewport = some (.scrollView offset)) :
    panel.Open layer scene
      (panel.watch panel.saveAll (panel.watch panel.title (panel.setList {} grown))) := by
  have hlist : panel.list (panel.watch panel.saveAll
      (panel.watch panel.title (panel.setList {} grown))).store = {} :=
    list_setList _ _
  have hrows : panel.rows (panel.watch panel.saveAll
      (panel.watch panel.title (panel.setList {} grown))).store = [] := by
    rw [rows, hlist]
  constructor
  case base_tidy => exact h
  case layer_mem => exact hlayer
  case grown =>
    rw [hrows]
    exact hgrown.named_extends
  case title => exact htitle
  case saveAll => exact hsaveAll
  case viewport => exact hviewport
  case shown =>
    rw [hrows]
    exact fun _ hrow => absurd hrow List.not_mem_nil
  case group_lt =>
    rw [hrows]
    exact fun _ hrow => absurd hrow List.not_mem_nil
  case increasing =>
    rw [hrows]
    exact List.Pairwise.nil
  case code?_eq =>
    intro v kind
    rw [hrows]
    unfold watch
    rw [Scene.register_code?, Scene.register_code?]
    change (if _ then _ else if _ then _ else grown.handlers.code? v kind) = _
    rw [hgrown.handlers_eq]
    simp only [links, List.map_nil, List.mem_cons, List.not_mem_nil, or_false,
      eq_comm (a := kind), eq_comm (a := v)]
    by_cases hkind : EventKind.linkClicked = kind <;> by_cases htitle : panel.title = v <;>
      by_cases hsaveAll : panel.saveAll = v <;> simp [hkind, htitle, hsaveAll]
  case moving =>
    intro v hv
    change grown.animator.isMoving v at hv
    rw [hgrown.animator_eq] at hv
    exact hv

variable [Scalar K] [Clock T]

theorem build_ends (h : scene.Tidy) (hlayer : layer ∈ scene.tree.kinds) :
    Succeeds (build layer) scene fun panel after =>
      panel.Open layer scene after ∧
        (panel.rows after.store).length = VideoFile.listed.length ∧
        after.store.popups = scene.store.popups ∧
        ∃ x, after.tree.kind? panel.viewport = some (.scrollView (clamped (Scalar.max 0 x) 0)) := by
  unfold build
  apply (Scene.add_grown h.sound hlayer _).bind_ends
  intro outer scene₁ ⟨h₁, _⟩
  apply (h₁.add ((h₁.mem_kinds _).mpr (Or.inl (by simp))) _).bind_ends
  intro bar scene₂ ⟨h₂, _⟩
  apply (h₂.add ((h₂.mem_kinds _).mpr (Or.inl (by simp))) _).bind_ends
  intro title scene₃ ⟨h₃, _, htitle⟩
  apply (h₃.add ((h₃.mem_kinds _).mpr (Or.inl (by simp))) _).bind_ends
  intro saveAll scene₄ ⟨h₄, hstep₄, hsaveAll⟩
  apply (h₄.add ((h₄.mem_kinds _).mpr (Or.inl (by simp))) _).bind_ends
  intro viewport scene₅ ⟨h₅, hstep₅, hviewport⟩
  apply (h₅.add ((h₅.mem_kinds _).mpr (Or.inl (by simp))) _).bind_ends
  intro content scene₆ ⟨h₆, hstep₆, _⟩
  apply Ends.modify_bind
  apply Ends.modify_bind
  apply Ends.modify_bind
  have hopen : Open ⟨outer, bar, title, saveAll, viewport, content⟩ layer scene _ :=
    .of_grown h hlayer h₆
      (hstep₆.kind?_of_some (hstep₅.kind?_of_some (hstep₄.kind?_of_some htitle)))
      (hstep₆.kind?_of_some (hstep₅.kind?_of_some hsaveAll)) ⟨0, hstep₆.kind?_of_some hviewport⟩
  apply (refill_ends hopen).bind_ends
  intro _ after ⟨hafter, hscrolls⟩
  refine ⟨hafter.opened, hafter.length_eq, ?_, hscrolls⟩
  rw [hafter.popups_eq]
  change scene₆.store.popups = _
  rw [h₆.store_eq]

end SavePanel

/--
Nothing has been added to `base`.
-/
structure Untouched (base scene : GalleryScene K T C X) : Prop where
  base_tidy : base.Tidy
  grown : base.named.Extends [] scene.named
  code?_eq (v : ViewId) (kind : EventKind) :
    scene.handlers.code? v kind = base.handlers.code? v kind
  moving {v : ViewId} (hv : scene.animator.isMoving v) : base.animator.isMoving v

theorem Scene.Tidy.untouched (h : scene.Tidy) : Untouched scene scene :=
  ⟨h, h.sound.extends, fun _ _ => rfl, fun hv => hv⟩

namespace Untouched

variable (h : Untouched base scene)

include h

theorem tidy : scene.Tidy where
  sound := h.grown.sound
  find?_eq_none {v} hv kind := by
    have hnone := h.base_tidy.code?_eq_none (fun hbase => hv (h.grown.issued hbase)) kind
    rw [← h.code?_eq] at hnone
    exact Option.map_eq_none_iff.mp hnone
  motion?_eq_none {v} hv := by
    have hidle := h.base_tidy.not_isMoving fun hbase => hv (h.grown.issued hbase)
    rw [Option.eq_none_iff_forall_ne_some]
    exact fun motion hmotion => hidle (h.moving (Animator.isMoving_of_motion? hmotion))

theorem mem_kinds (v : ViewId) : v ∈ scene.tree.kinds ↔ v ∈ base.tree.kinds := by
  have hmem : v ∈ scene.tree.kinds ↔ v ∈ ([] : List ViewId) ∨ v ∈ base.tree.kinds :=
    h.grown.mem_kinds v
  simpa using hmem

theorem opened {after : GalleryScene K T C X} {panel : SavePanel}
    (hopen : panel.Open layer scene after) : panel.Open layer base after where
  base_tidy := h.base_tidy
  layer_mem := (h.mem_kinds layer).mp hopen.layer_mem
  grown := h.grown.trans hopen.grown
  title := hopen.title
  saveAll := hopen.saveAll
  viewport := hopen.viewport
  shown := hopen.shown
  group_lt := hopen.group_lt
  increasing := hopen.increasing
  code?_eq v kind := by rw [hopen.code?_eq, h.code?_eq]
  moving hv := h.moving (hopen.moving hv)

theorem frame [Scalar K] [Clock T] (now : Instant) : Untouched base (scene.frame now).2 where
  base_tidy := h.base_tidy
  grown := h.grown.moved (scene.animator.frame_moved now scene.tree)
  code?_eq := h.code?_eq
  moving hv := h.moving (Scene.isMoving_of_frame hv)

end Untouched

theorem SavePanel.Open.with_popups {panel : SavePanel} (h : panel.Open layer base scene)
    (popups : Std.ExtTreeMap ViewId SavePanel) :
    panel.Open layer base { scene with store.popups := popups } where
  base_tidy := h.base_tidy
  layer_mem := h.layer_mem
  grown := h.grown
  title := h.title
  saveAll := h.saveAll
  viewport := h.viewport
  shown := h.shown
  group_lt := h.group_lt
  increasing := h.increasing
  code?_eq := h.code?_eq
  moving := h.moving

theorem SavePanel.Open.exists_remove [Scalar K] [Clock T] {panel : SavePanel}
    (h : panel.Open layer base scene) :
    ∃ after, Scene.remove panel.outer scene = .ok () after ∧ Untouched base after ∧
      after.names = scene.names := by
  have houter : panel.outer ∈ (panel.entries layer (panel.rows scene.store)).map Prod.fst := by
    simp [entries]
  obtain ⟨gone, after, hremove, hgone, hwithout, hgrown⟩ :=
    Scene.exists_remove_added h.grown houter
  have hviews (w : ViewId) : w ∈ gone ↔ w ∈ panel.views (panel.rows scene.store) :=
    (hgone w).trans (h.encloses_outer_iff w)
  have hnone : (panel.entries layer (panel.rows scene.store)).filter (·.1 ∉ gone) = [] := by
    rw [List.filter_eq_nil_iff]
    intro entry hentry
    rw [decide_eq_true_iff, not_not, hviews, ← entries_map_fst panel layer]
    exact List.mem_map_of_mem hentry
  rw [hnone] at hgrown
  refine ⟨after, hremove, ?_, hwithout.names_eq⟩
  constructor
  case base_tidy => exact h.base_tidy
  case grown => exact hgrown
  case code?_eq =>
    intro v kind
    rw [hwithout.code?_eq]
    split
    · next hv => exact (h.base_tidy.code?_eq_none (h.fresh ((hviews v).mp hv)) kind).symm
    · next hv =>
      rw [h.code?_eq, if_neg]
      exact fun hlink => hv ((hviews v).mpr (views_of_links hlink.2))
  case moving =>
    intro v hv
    exact h.moving (hwithout.of_isMoving hv).2

namespace PopupButton

variable {popup : PopupButton}

section Dismissing

variable [Clock T]

variable [Scalar K]

theorem dismiss_untouched {panel : SavePanel} (h : panel.Open layer base scene)
    (hpanel : popup.panel? scene.store = some panel) :
    Untouched base (popup.dismiss scene) ∧ (popup.dismiss scene).names = scene.names := by
  have hforgotten := h.with_popups (scene.store.popups.erase popup.button)
  rcases hforgotten.exists_remove with ⟨after, hremove, hafter, hnames⟩
  rw [dismiss_of_some hpanel, Scene.settle, forgetPanel, hremove]
  exact ⟨hafter, hnames⟩

theorem dismiss_tidy (h : scene.Tidy) (popup : PopupButton) :
    (popup.dismiss scene).Tidy ∧ (popup.dismiss scene).names = scene.names := by
  cases hpanel : popup.panel? scene.store with
  | none =>
    rw [dismiss_of_none hpanel]
    exact ⟨h, rfl⟩
  | some previous =>
    have hforgotten : (popup.forgetPanel scene).Tidy := h.with_store _
    obtain ⟨gone, hwithout⟩ := Scene.exists_without_remove hforgotten.sound previous.outer
    rw [dismiss_of_some hpanel]
    exact ⟨hwithout.tidy hforgotten, hwithout.names_eq⟩

end Dismissing

theorem panel?_setPanel (panel : SavePanel) (scene : GalleryScene K T C X) :
    popup.panel? (popup.setPanel panel scene).store = some panel := by
  unfold panel? setPanel
  rw [Std.ExtTreeMap.getElem?_insert_self]

theorem panel?_of_popups_eq {gallery after : Gallery X} (h : after.popups = gallery.popups) :
    popup.panel? after = popup.panel? gallery := by
  unfold panel?
  rw [h]

section PoppingUp

variable [Scalar K] [Clock T]

/--
The panel has just been opened in place of the one before, and has its natural size.
-/
structure Opened (popup : PopupButton) (base : GalleryScene K T C X) (panel : SavePanel)
    (after : GalleryScene K T C X) : Prop where
  opened : panel.Open popup.layer base after
  length_eq : (panel.rows after.store).length = VideoFile.listed.length
  panel?_eq : popup.panel? after.store = some panel
  laid : ∃ x, panel.Laid (panel.rows after.store) (SavePanel.clamped
    (panel.room after.tree (panel.rows after.store)) (SavePanel.clamped (Scalar.max 0 x) 0))
    after.tree

theorem popUp_ends (h : (popup.dismiss scene).Tidy)
    (hbutton : popup.button ∈ (popup.dismiss scene).tree.kinds)
    (hlayer : popup.layer ∈ (popup.dismiss scene).tree.kinds) :
    Succeeds popup.popUp scene fun panel after =>
      popup.Opened (popup.dismiss scene) panel after := by
  have hanchor : ∃ anchor, (popup.dismiss scene).tree.bounds? popup.button = some anchor := by
    rw [← Option.isSome_iff_exists]
    exact Scene.placed_of_mem h.sound hbutton
  rcases hanchor with ⟨anchor, hanchor⟩
  unfold popUp
  apply Ends.modify_bind
  apply Ends.get_bind
  rw [hanchor]
  apply Ends.bind_ok rfl
  apply (SavePanel.build_ends h hlayer).bind_ends
  intro panel next ⟨hopen, hlength, _, x, hscrolls⟩
  apply Ends.bind
  apply Scene.onTree_ends
  apply (Layout.place_ends {panel.outer} rfl _ next.tree).mono
  · intro _ tree ⟨hmoved, _⟩
    have hplaced := (hmoved.kind?_eq panel.viewport).trans hscrolls
    apply (SavePanel.onRows_fit_ends (hopen.arranged (.of_moved hmoved) hplaced) hplaced).bind_ends
    intro _ fitted ⟨tree', heq, harranged, hlaid⟩
    have hfitted := (hopen.arranged (.of_moved hmoved) hplaced).arranged harranged hlaid.scrolls
    rw [heq]
    exact ⟨hfitted.with_popups _, hlength, panel?_setPanel panel _, x, hlaid⟩

omit [Clock T] in
theorem build_ends (h : scene.Tidy) (container layer : ViewId) :
    Ends (build container layer) scene
      (fun popup built => built.Tidy ∧ popup.layer = layer ∧ popup.button ∈ built.tree.kinds ∧
        (∀ v ∈ scene.tree.kinds, v ∈ built.tree.kinds) ∧
        built.handlers.code? popup.button .pressed = some (.popUp popup)) fun _ _ => True := by
  unfold build
  by_cases hcontainer : container ∈ scene.tree.kinds
  · apply (Scene.add_grown h.sound hcontainer _).bind_ends
    intro button next ⟨hgrown, _⟩
    apply Ends.bind
    apply Scene.onTree_ends
    apply (Layout.arranges_fit {button} rfl next.tree).mono
    · intro _ tree hmoved
      have hsound : NamedTree.Sound ⟨tree, next.names⟩ :=
        (hgrown.sound.extends.moved hmoved).sound
      have hmem (v : ViewId) (hv : v = button ∨ v ∈ scene.tree.kinds) : v ∈ tree.kinds := by
        rw [hmoved.kinds_eq, hgrown.mem_kinds]
        exact hv.imp_left List.mem_singleton.mpr
      apply Ends.modify_bind
      refine ⟨((h.grown hgrown).of_tree hsound).register ?_ _ _, rfl, hmem button (Or.inl rfl),
        fun v hv => hmem v (Or.inr hv), ?_⟩
      · exact hsound.issued (hmem button (Or.inl rfl))
      · rw [Scene.register_code?, if_pos ⟨rfl, rfl⟩]
    · exact fun _ _ _ => trivial
  · apply Ends.bind
    exact Ends.of_error (Scene.add_error hcontainer _) trivial

/--
Without its button or its layer, the button does not open anything.
-/
theorem mem_of_popUp {panel : SavePanel} {after : GalleryScene K T C X}
    (h : popup.popUp scene = .ok panel after) :
    popup.button ∈ (popup.dismiss scene).tree.bounds ∧
      popup.layer ∈ (popup.dismiss scene).tree.kinds := by
  have hends : Ends popup.popUp scene (fun _ _ =>
      popup.button ∈ (popup.dismiss scene).tree.bounds ∧
        popup.layer ∈ (popup.dismiss scene).tree.kinds) fun _ _ => True := by
    unfold popUp
    apply Ends.modify_bind
    apply Ends.get_bind
    cases hanchor : (popup.dismiss scene).tree.bounds? popup.button with
    | none => exact Ends.bind trivial
    | some anchor =>
      apply Ends.bind_ok rfl
      by_cases hlayer : popup.layer ∈ (popup.dismiss scene).tree.kinds
      · have hbutton : popup.button ∈ (popup.dismiss scene).tree.bounds := by
          rw [ViewTree.mem_bounds_iff_isSome, hanchor]
          rfl
        exact Ends.of_forall (fun _ _ => ⟨hbutton, hlayer⟩) fun _ _ => trivial
      · apply Ends.bind
        apply Ends.bind
        exact Ends.of_error (Scene.add_error hlayer _) trivial
  exact hends.of_eq h

end PoppingUp

end PopupButton

end ViewMotion
