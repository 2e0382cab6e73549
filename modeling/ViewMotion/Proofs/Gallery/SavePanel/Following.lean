import ViewMotion.Proofs.Gallery.SavePanel.Filling

/-!
This module contains what the links of a save panel do to it. The one that saves all replaces the
rows, and the others append a row. In both cases the panel gets its natural size afterwards.
-/

namespace ViewMotion.SavePanel

variable {K T C X : Type} {panel : SavePanel} {layer : ViewId}
  {base scene next : GalleryScene K T C X}

variable [Scalar K]

section Arranging

variable {tree : ViewTree K} (harranged : panel.Arranged next.tree tree) {offset : K}
  (hscrolls : tree.kind? panel.viewport = some (.scrollView offset))

include harranged hscrolls

theorem Lengthened.arranged {count : Nat} (h : panel.Lengthened layer base scene count next) :
    panel.Lengthened layer base scene count { next with tree } :=
  ⟨h.opened.arranged harranged hscrolls, h.rows_eq, h.upcoming_le, h.popups_eq⟩

theorem Refilled.arranged (h : panel.Refilled layer base scene next) :
    panel.Refilled layer base scene { next with tree } :=
  ⟨h.opened.arranged harranged hscrolls, h.length_eq, h.upcoming_le, h.group_le, h.popups_eq⟩

end Arranging

theorem onRows_fit_ends (h : panel.Open layer base scene) {offset : K}
    (hscrolls : scene.tree.kind? panel.viewport = some (.scrollView offset)) :
    Succeeds (panel.onRows panel.fit) scene fun _ after => ∃ tree,
      after = { scene with tree } ∧ panel.Arranged scene.tree tree ∧
        panel.Laid (panel.rows scene.store)
          (clamped (panel.room tree (panel.rows scene.store)) offset) tree := by
  apply onRows_ends
  apply (fit_ends (h.standing hscrolls)).mono
  · intro _ tree ⟨harranged, hlaid⟩
    rw [← harranged.room_eq] at hlaid
    exact ⟨tree, rfl, harranged, hlaid⟩

section Links

variable [Clock T]

omit [Scalar K] in
theorem roleOf?_eq {tree : ViewTree K} {link : ViewId} {text : String} {role : LinkRole}
    (h : tree.kind? link = some (.link text role.code)) : roleOf? tree link = some role := by
  unfold roleOf?
  rw [h]
  exact LinkRole.ofCode?_code role

theorem followLink_saveAll_ends (h : panel.Open layer base scene) :
    Succeeds (panel.followLink panel.saveAll) scene fun _ after =>
      panel.Refilled layer base scene after ∧ ∃ x, panel.Laid (panel.rows after.store)
        (clamped (panel.room after.tree (panel.rows after.store)) (clamped (Scalar.max 0 x) 0))
        after.tree := by
  unfold followLink
  apply Ends.get_bind
  rw [roleOf?_eq h.saveAll]
  apply (refill_ends h).bind_ends
  intro _ next ⟨hnext, x, hscrolls⟩
  apply (onRows_fit_ends hnext.opened hscrolls).mono
  · intro _ after ⟨tree, heq, harranged, hlaid⟩
    rw [heq]
    exact ⟨hnext.arranged harranged hlaid.scrolls, x, hlaid⟩

theorem followLink_ends (h : panel.Open layer base scene) {link : ViewId}
    (hlink : link ∈ panel.title :: (panel.rows scene.store).map Row.link) {offset : K}
    (hscrolls : scene.tree.kind? panel.viewport = some (.scrollView offset)) :
    Succeeds (panel.followLink link) scene fun _ after =>
      panel.Lengthened layer base scene 1 after ∧ panel.Laid (panel.rows after.store)
        (clamped (panel.room after.tree (panel.rows after.store)) offset) after.tree := by
  have hrole : roleOf? scene.tree link = some .setting ∨ roleOf? scene.tree link = some .save := by
    rw [List.mem_cons, List.mem_map] at hlink
    rcases hlink with rfl | ⟨row, hrow, rfl⟩
    · exact Or.inl (roleOf?_eq h.title)
    · exact Or.inr (roleOf?_eq (h.shown row hrow).link)
  have hoffset : panel.scrolled scene.tree = offset := by
    unfold scrolled
    rw [hscrolls]
  have hadds : Succeeds (do
      let _ ← panel.append .added
      panel.onRows panel.layoutGrid
      panel.onRows panel.fit
      if offset != 0 then Scene.onTree (panel.scrollTo offset)) scene fun _ after =>
        panel.Lengthened layer base scene 1 after ∧ panel.Laid (panel.rows after.store)
          (clamped (panel.room after.tree (panel.rows after.store)) offset) after.tree := by
    apply (append_ends h .added).bind_ends
    intro _ next hnext
    have hviewport := hnext.viewport_eq.trans hscrolls
    apply Ends.bind
    apply onRows_ends
    apply (layoutGrid_ends (hnext.opened.standing hviewport)).mono
    · intro _ tree ⟨hmoved, _⟩
      have hgrid := (hmoved.kind?_eq panel.viewport).trans hviewport
      have hnext' := hnext.toLengthened.arranged (.of_moved hmoved) hgrid
      apply (onRows_fit_ends hnext'.opened hgrid).bind_ends
      intro _ fitted ⟨tree', heq, harranged, hlaid⟩
      have hfitted := hnext'.arranged harranged hlaid.scrolls
      rw [heq]
      split
      · apply Scene.onTree_ends
        apply (hlaid.toSized.scrollTo_ends hlaid.toStanding offset).mono
        intro _ last ⟨hlast, hlaid'⟩
        rw [← hlast.room_eq] at hlaid'
        exact ⟨hfitted.arranged hlast hlaid'.scrolls, hlaid'⟩
      · exact ⟨hfitted, hlaid⟩
  unfold followLink
  apply Ends.get_bind
  cases hrole with
  | inl hrole =>
    rw [hrole, hoffset]
    exact hadds
  | inr hrole =>
    rw [hrole, hoffset]
    exact hadds

end Links

end ViewMotion.SavePanel
