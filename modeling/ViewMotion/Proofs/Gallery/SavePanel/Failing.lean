import ViewMotion.Clock.Manual
import ViewMotion.Proofs.ExactScalar
import ViewMotion.Proofs.Gallery.Layout
import ViewMotion.Proofs.Gallery.SavePanel.Filling
import ViewMotion.Proofs.Gallery.SavePanel.Repetition

/-!
This module contains what a save panel is left with when its rows cannot be changed. A row that
cannot be appended leaves everything as it is, but rows that cannot be made anew are lost.
-/

namespace ViewMotion.SavePanel

variable {K T C X : Type} [Scalar K] {panel : SavePanel} {scene : GalleryScene K T C X}

section Appending

/--
The content is all that a row needs.
-/
theorem append_cases (h : scene.named.Sound) (panel : SavePanel) (file : VideoFile) :
    Ends (panel.append file) scene
      (fun row after => panel.content ∈ scene.tree.kinds ∧
        panel.rows after.store = panel.rows scene.store ++ [row])
      fun e after => panel.content ∉ scene.tree.kinds ∧ e = .missing panel.content ∧
        after = scene := by
  by_cases hcontent : panel.content ∈ scene.tree.kinds
  · apply Succeeds.ends
    apply (append_celled h hcontent file).mono
    intro row after ⟨next, hcelled, hafter⟩
    refine ⟨hcontent, ?_⟩
    rw [hafter, rows_setRows]
    exact congrArg (· ++ [row]) hcelled.rows_eq
  · exact Ends.of_error (append_error hcontent file) ⟨hcontent, rfl, rfl⟩

/--
There are `count` rows more, and the content has been kept.
-/
structure Longer (panel : SavePanel) (count : Nat) (scene after : GalleryScene K T C X) : Prop where
  sound : after.named.Sound
  content_mem : panel.content ∈ after.tree.kinds
  length_eq : (panel.rows after.store).length = (panel.rows scene.store).length + count

theorem append_longer (h : scene.named.Sound) (hcontent : panel.content ∈ scene.tree.kinds)
    (file : VideoFile) :
    Succeeds (panel.append file) scene fun _ after => panel.Longer 1 scene after := by
  apply (append_celled h hcontent file).mono
  intro row after ⟨next, hcelled, hafter⟩
  have hrows : panel.rows (panel.watch row.link next).store = panel.rows scene.store :=
    hcelled.rows_eq
  rw [hafter]
  constructor
  case sound => exact hcelled.extended.sound
  case content_mem => exact (hcelled.extended.mem_kinds _).mpr (Or.inr hcontent)
  case length_eq => rw [rows_setRows, hrows, List.length_append, List.length_singleton]

theorem forM_append_longer (h : scene.named.Sound) (hcontent : panel.content ∈ scene.tree.kinds)
    (files : List VideoFile) :
    Succeeds (files.forM fun file => discard (panel.append file)) scene fun _ after =>
      panel.Longer files.length scene after := by
  induction files generalizing scene with
  | nil => exact ⟨h, hcontent, rfl⟩
  | cons file files ih =>
    apply Ends.forM_cons
    apply Ends.discard
    apply (append_longer h hcontent file).mono
    intro _ next hnext
    apply (ih hnext.sound hnext.content_mem).mono
    intro _ after hafter
    refine ⟨hafter.sound, hafter.content_mem, ?_⟩
    rw [hafter.length_eq, hnext.length_eq, List.length_cons]
    omega

end Appending

section Refilling

/--
The viewport is scrolled back, if it is one that can be scrolled. All else is as before.
-/
structure ScrolledBack (panel : SavePanel) (tree after : ViewTree K) : Prop where
  shape : ViewTree.SameShape tree after
  bounds_eq : after.bounds = tree.bounds
  groups_eq : after.groups = tree.groups
  kind?_eq (v : ViewId) : after.kind? v =
    if panel.viewport = v then
      (tree.kind? v).map (scrollTo.withOffset (clamped (panel.scrollLimit tree) 0))
    else tree.kind? v

theorem scrolledBack_of_modifyKind? {tree changed : ViewTree K}
    (h : tree.modifyKind? panel.viewport
      (scrollTo.withOffset (clamped (panel.scrollLimit tree) 0)) = some changed) :
    panel.ScrolledBack tree changed := by
  obtain ⟨-, hshape, hbounds, hgroups, -⟩ := ViewTree.modifyKind?_effect h
  exact ⟨hshape, hbounds, hgroups, ViewTree.modifyKind?_kind? h⟩

def Scrollable (panel : SavePanel) (tree : ViewTree K) : Prop :=
  ∃ offset, tree.kind? panel.viewport = some (.scrollView offset)

/--
The error with which a panel cannot be scrolled.
-/
inductive Unscrollable (panel : SavePanel) (tree : ViewTree K) : ViewError → Prop where
  | viewport (h : ¬ panel.Scrollable tree) : Unscrollable panel tree (.missing panel.viewport)
  | content (h : panel.Scrollable tree) (hcontent : panel.content ∉ tree.bounds) :
    Unscrollable panel tree (.missing panel.content)

theorem scrollTo_zero_cases (panel : SavePanel) (tree : ViewTree K) :
    Ends (panel.scrollTo 0) tree
      (fun _ _ => panel.Scrollable tree ∧ panel.content ∈ tree.bounds)
      fun e after => panel.Unscrollable tree e ∧ panel.ScrolledBack tree after := by
  have hscrolls := panel.scrollTo_scrolls 0 tree
  unfold Ends
  generalize panel.scrollTo 0 tree = result at hscrolls
  cases hscrolls with
  | gone hkind =>
    refine ⟨.viewport ?_, .refl tree, rfl, rfl, ?_⟩
    · intro ⟨offset, hscrolls⟩
      rw [hkind] at hscrolls
      contradiction
    · intro v
      split
      · next heq => rw [← heq, hkind, Option.map_none]
      · rfl
  | other hkind hother hchanged =>
    exact ⟨.viewport fun ⟨offset, hscrolls⟩ => hother offset hscrolls,
      scrolledBack_of_modifyKind? hchanged⟩
  | empty hkind hchanged hcontent =>
    refine ⟨.content ⟨_, hkind⟩ ?_, scrolledBack_of_modifyKind? hchanged⟩
    rw [ViewTree.mem_bounds_iff_isSome, hcontent]
    exact Bool.false_ne_true
  | done hkind hchanged hcontent =>
    refine ⟨⟨_, hkind⟩, ?_⟩
    rw [ViewTree.mem_bounds_iff_isSome, hcontent]
    rfl

variable [Clock T]

/--
All that is in the content has been taken out, with its handlers and motions. Without a content that
is nothing.
-/
structure Cleared (panel : SavePanel) (scene cleared : GalleryScene K T C X) : Prop where
  clear_eq : Scene.clear panel.content scene = .ok () cleared
  without : ∃ gone, (∀ w, w ∈ gone ↔ ∃ u ∈ scene.tree.subviews panel.content,
    scene.tree.Encloses u w) ∧ Scene.Without gone scene cleared
  content_mem : panel.content ∈ cleared.tree.kinds ↔ panel.content ∈ scene.tree.kinds
  eq_of_missing (h : panel.content ∉ scene.tree.kinds) : cleared = scene

theorem exists_cleared (h : scene.named.Sound) (panel : SavePanel) :
    ∃ cleared, panel.Cleared scene cleared := by
  have hformed : scene.tree.WellFormed := h.wellFormed
  obtain ⟨gone, cleared, hclear, hgone, hwithout⟩ := Scene.exists_clear h panel.content
  refine ⟨cleared, hclear, ⟨gone, hgone, hwithout⟩, ?_, ?_⟩
  · rw [hwithout.mem_kinds, hgone, and_iff_right]
    intro ⟨u, hu, hencloses⟩
    exact hformed.not_encloses_superview (hformed.superview_of_mem hu) hencloses
  · intro hcontent
    have hnothing : Scene.clear panel.content scene = .ok () scene := by
      unfold Scene.clear
      rw [Ends.get_bind_eq, hformed.subviews_eq_nil hcontent]
      rfl
    rw [hclear] at hnothing
    injection hnothing

/--
The content has been cleared and the rows are lost, but the viewport could not be scrolled back with
its content. No view and no group has been taken for a new row.
-/
structure Emptied (panel : SavePanel) (scene : GalleryScene K T C X) (e : ViewError)
    (after : GalleryScene K T C X) : Prop where
  exists_cleared : ∃ cleared, panel.Cleared scene cleared ∧ panel.Unscrollable cleared.tree e ∧
    panel.ScrolledBack cleared.tree after.tree ∧
    after = panel.setRows [] { cleared with tree := after.tree }
  eq_of_missing (h : panel.content ∉ scene.tree.kinds) :
    panel.ScrolledBack scene.tree after.tree ∧
      after = panel.setRows [] { scene with tree := after.tree }
  rows_eq : panel.rows after.store = []
  groups_eq : (panel.list after.store).groups = (panel.list scene.store).groups
  names_eq : after.names = scene.names

theorem refill_cases (h : scene.named.Sound) (panel : SavePanel) :
    Ends panel.refill scene
      (fun _ after => panel.content ∈ scene.tree.kinds ∧
        (∃ cleared, panel.Cleared scene cleared ∧ panel.Scrollable cleared.tree) ∧
        (panel.rows after.store).length = VideoFile.listed.length)
      (panel.Emptied scene) := by
  obtain ⟨cleared, hcleared⟩ := exists_cleared h panel
  obtain ⟨gone, -, hwithout⟩ := hcleared.without
  have hformed : cleared.tree.WellFormed := hwithout.sound.wellFormed
  unfold refill
  apply Ends.bind_ok hcleared.clear_eq
  apply Ends.modify_bind
  apply Ends.bind
  apply Scene.onTree_ends
  apply ((relays_scrollTo panel 0 _).and (panel.scrollTo_zero_cases _)).mono
  · intro _ tree ⟨hrelaid, hscrollable, hcontent⟩
    have hmem : panel.content ∈ cleared.tree.kinds := (hformed.mem_bounds _).mp hcontent
    have hsound : NamedTree.Sound ⟨tree, cleared.names⟩ :=
      ⟨hrelaid.wellFormed hformed,
        fun hv => hwithout.sound.issued ((hrelaid.shape.mem_kinds _).mp hv)⟩
    apply (forM_append_longer hsound ((hrelaid.shape.mem_kinds _).mpr hmem) _).bind_ends
    intro _ filled hfilled
    apply onRows_ends
    apply Ends.of_ok (layoutGrid_eq panel _ _)
    refine ⟨hcleared.content_mem.mp hmem, ⟨cleared, hcleared, hscrollable⟩, ?_⟩
    have hnone : panel.rows (panel.setRows [] cleared).store = [] := rows_setRows [] cleared
    change (panel.rows filled.store).length = _
    rw [hfilled.length_eq]
    change (panel.rows (panel.setRows [] cleared).store).length + _ = _
    rw [hnone, List.length_nil, Nat.zero_add]
  · intro e tree ⟨_, hunscrollable, hback⟩
    constructor
    case exists_cleared => exact ⟨cleared, hcleared, hunscrollable, hback, rfl⟩
    case eq_of_missing =>
      intro hcontent
      rw [← hcleared.eq_of_missing hcontent]
      exact ⟨hback, rfl⟩
    case rows_eq => exact rows_setRows [] cleared
    case groups_eq =>
      rw [← hwithout.store_eq]
      exact groups_setRows [] cleared
    case names_eq => exact hwithout.names_eq

end Refilling

/--
A row is appended if and only if there is the content, and otherwise everything stays as it was. The
rows are made anew if and only if the content can be scrolled in its viewport as well. Otherwise
those that there were are lost, and what the content held is gone, but nothing new is there.
-/
theorem failing_append_and_refill [Clock T] (names : ViewNames) (clock : T)
    (defaults : MotionDefaults) (gallery : Gallery X)
    (requests : List (SceneRequest K T (Reaction K C) (Gallery X))) (panel : SavePanel)
    (file : VideoFile) :
    let scene := (Scene.new names clock defaults gallery).run requests
    Ends (panel.append file) scene
      (fun row after => panel.content ∈ scene.tree.kinds ∧
        panel.rows after.store = panel.rows scene.store ++ [row])
      (fun e after => panel.content ∉ scene.tree.kinds ∧ e = .missing panel.content ∧
        after = scene) ∧
    Ends panel.refill scene
      (fun _ after => panel.content ∈ scene.tree.kinds ∧
        (∃ cleared, panel.Cleared scene cleared ∧ panel.Scrollable cleared.tree) ∧
        (panel.rows after.store).length = VideoFile.listed.length)
      (panel.Emptied scene) := by
  intro scene
  have hreachable : scene.Reachable := ⟨names, clock, defaults, gallery, requests, rfl⟩
  exact ⟨append_cases hreachable.sound panel file, refill_cases hreachable.sound panel⟩

theorem refill_loses_rows_of_removed_panel :
    let start : GalleryScene Rat ManualClock Empty Unit := .new .counted .atEpoch {} (.new ())
    let panel : SavePanel := ⟨⟨1⟩, ⟨2⟩, ⟨3⟩, ⟨4⟩, ⟨5⟩, ⟨6⟩⟩
    let built := Scene.settle (build ⟨0⟩) start
    let removed := Scene.settle (Scene.remove panel.outer) built
    (build ⟨0⟩).run' start = some panel ∧ (panel.rows removed.store).length = 8 ∧
      panel.refill.run' removed = none ∧
      (panel.rows (Scene.settle panel.refill removed).store).length = 0 := by
  decide +kernel

end ViewMotion.SavePanel
