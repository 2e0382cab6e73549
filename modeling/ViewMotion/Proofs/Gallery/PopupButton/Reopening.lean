import ViewMotion.Clock.Manual
import ViewMotion.Proofs.ExactScalar
import ViewMotion.Proofs.Gallery.PopupButton.Opening
import ViewMotion.Proofs.Gallery.SavePanel.Confinement
import ViewMotion.Proofs.Gallery.SavePanel.Repetition

/-!
This module contains what a popup button leaves behind, whatever has become of its panel, of itself
and of its layer in the meantime: the panel before is gone, and there is all of a new one or none.
-/

namespace ViewMotion

open Scene

variable {K T C X : Type} {late : Set ViewId} {layer parent v : ViewId}
  {base scene after : GalleryScene K T C X} {panels : List SavePanel}

namespace SavePanel

variable {panel other : SavePanel}

theorem Open.confined (h : panel.Open layer base scene) : panel.Confined scene where
  issued hv := h.issued hv
  inside hv _ := (h.encloses_outer_iff _).mpr hv
  ne_root := h.grown.ne_root (by simp [entries])

theorem Open.superview?_outer (h : panel.Open layer base scene) :
    scene.tree.superview? panel.outer = some layer := by
  have hformed : scene.tree.WellFormed := h.grown.sound.wellFormed
  rw [← hformed.mem_subviews_iff, h.subviews_layer]
  exact List.mem_append_right _ List.mem_cons_self

/--
What is in the panel, or has been put there by somebody else.
-/
def Holds (panel : SavePanel) (scene : GalleryScene K T C X) (v : ViewId) : Prop :=
  v ∈ panel.views (panel.rows scene.store) ∨ scene.tree.Encloses panel.outer v

theorem Confined.encloses (h : panel.Confined scene) (hv : panel.Holds scene v)
    (hmem : v ∈ scene.tree.kinds) : scene.tree.Encloses panel.outer v :=
  hv.elim (fun hview => h.inside hview hmem) id

theorem Confined.issued_of_holds (h : panel.Confined scene) (hsound : scene.named.Sound)
    (hv : panel.Holds scene v) : scene.names.Issued v := by
  have hformed : scene.tree.WellFormed := hsound.wellFormed
  cases hv with
  | inl hview => exact h.issued hview
  | inr hencloses =>
    cases Relation.ReflTransGen.cases_tail hencloses with
    | inl heq => exact h.issued (by simp [views, heq])
    | inr hlast =>
      obtain ⟨p, -, hp⟩ := hlast
      exact hsound.issued (hformed.mem_of_superview (hformed.superview_of_mem hp))

variable [Scalar K] [Clock T]

theorem build_error (hparent : parent ∉ scene.tree.kinds) :
    build parent scene = .error (.missing parent) scene := by
  unfold build
  rw [Ends.bind_eq_of_error (Scene.add_error hparent _)]

theorem build_spares (parent : ViewId) (scene : GalleryScene K T C X) :
    Ends (build parent) scene (fun panel after => panel.Spares scene after) fun _ _ => True := by
  have add {β : Type} {v : ViewId} {kind : ViewKind K} {scene : GalleryScene K T C X}
      {next : ViewId → GalleryM ViewError K T C X β}
      {post : β → GalleryScene K T C X → Prop}
      (h : ∀ w after, after.store = scene.store → Ends (next w) after post fun _ _ => True) :
      Ends (Scene.add v kind >>= next) scene post fun _ _ => True := by
    apply Ends.bind
    exact (sameStore_add v kind scene).mono (fun w after hsame => h w after hsame)
      fun _ _ _ => trivial
  unfold build
  apply add
  intro outer scene₁ h₁
  apply add
  intro bar scene₂ h₂
  apply add
  intro title scene₃ h₃
  apply add
  intro saveAll scene₄ h₄
  apply add
  intro viewport scene₅ h₅
  apply add
  intro content scene₆ h₆
  let panel : SavePanel := ⟨outer, bar, title, saveAll, viewport, content⟩
  have hadded : panel.Spares scene scene₆ := .of_store_eq (by rw [h₆, h₅, h₄, h₃, h₂, h₁])
  have hlisted : panel.Spares scene
      (panel.watch saveAll (panel.watch title (panel.setList {} scene₆))) :=
    hadded.trans ((panel.spares_setList {} scene₆).trans (.of_store_eq rfl))
  apply Ends.modify_bind
  apply Ends.modify_bind
  apply Ends.modify_bind
  apply Ends.bind
  apply (panel.tends_refill _).mono
  · intro _ after htends
    exact hlisted.trans htends.toSpares
  · exact fun _ _ _ => trivial

end SavePanel

namespace PopupButton

variable {popup : PopupButton}

section Dismissing

variable [Clock T]

theorem dismiss_store (popup : PopupButton) (scene : GalleryScene K T C X) :
    (popup.dismiss scene).store.panels = scene.store.panels ∧
      ∀ other : PopupButton, other.panel? (popup.dismiss scene).store =
        if popup.button = other.button then none else other.panel? scene.store := by
  cases hpanel : popup.panel? scene.store with
  | none =>
    rw [dismiss_of_none hpanel]
    refine ⟨rfl, fun other => ?_⟩
    split
    · next heq =>
      unfold panel? at hpanel ⊢
      rw [← heq, hpanel]
    · rfl
  | some previous =>
    have hstore : (popup.dismiss scene).store = (popup.forgetPanel scene).store := by
      rw [dismiss_of_some hpanel]
      exact settle_of_ends (fun after => after.store = _)
        (sameStore_remove previous.outer (popup.forgetPanel scene))
    rw [hstore]
    refine ⟨rfl, fun other => ?_⟩
    unfold panel? forgetPanel
    dsimp only
    rw [Std.ExtTreeMap.getElem?_erase]
    simp only [Std.LawfulEqOrd.compare_eq_iff_eq]

theorem dismiss_takes_out [Scalar K] {previous : SavePanel} (h : previous.Confined scene)
    (hsound : scene.named.Sound) (hpanel : popup.panel? scene.store = some previous)
    (hv : previous.Holds scene v) : v ∉ (popup.dismiss scene).tree.kinds := by
  have hforgotten : (popup.forgetPanel scene).named.Sound := hsound
  have hformed : scene.tree.WellFormed := hsound.wellFormed
  rw [dismiss_of_some hpanel]
  intro hleft
  have hmem : v ∈ scene.tree.kinds := by
    obtain ⟨gone, hwithout⟩ := exists_without_remove hforgotten previous.outer
    exact ((hwithout.mem_kinds v).mp hleft).2
  have hencloses := h.encloses hv hmem
  obtain ⟨gone, removed, hremove, hgone, hwithout⟩ :=
    exists_remove hforgotten (hformed.mem_of_enclosed hmem hencloses) h.ne_root
  rw [settle, hremove] at hleft
  exact ((hwithout.mem_kinds v).mp hleft).1 ((hgone v).mpr hencloses)

end Dismissing

section PoppingUp

variable [Scalar K] [Clock T]

/--
The panel is the one that the button has, and has been put into its layer, under its lower left
corner and with all its rows. None of its views has been there before.
-/
structure PoppedUp (popup : PopupButton) (base : GalleryScene K T C X) (panel : SavePanel)
    (after : GalleryScene K T C X) : Prop where
  panel?_eq : popup.panel? after.store = some panel
  superview?_eq : after.tree.superview? panel.outer = some popup.layer
  subviews_eq : after.tree.subviews popup.layer =
    base.tree.subviews popup.layer ++ [panel.outer]
  placed : ∃ anchor, base.tree.bounds? popup.button = some anchor ∧
    (after.tree.bounds? panel.outer).map Rect.origin = some anchor.bottomLeft
  length_eq : (panel.rows after.store).length = 8
  fresh {v : ViewId} (hv : v ∈ panel.views (panel.rows after.store)) : ¬ base.names.Issued v

/--
Why the button cannot open a panel.
-/
inductive Refuses (popup : PopupButton) (base : GalleryScene K T C X) : ViewError → Prop where
  | button (h : popup.button ∉ base.tree.kinds) : Refuses popup base (.missing popup.button)
  | layer (h : popup.button ∈ base.tree.kinds) (hlayer : popup.layer ∉ base.tree.kinds) :
    Refuses popup base (.missing popup.layer)

theorem popUp_without_button (hbutton : (popup.dismiss scene).tree.bounds? popup.button = none) :
    Ends popup.popUp scene (fun _ _ => False) fun e after =>
      e = .missing popup.button ∧ after = popup.dismiss scene := by
  unfold popUp
  apply Ends.modify_bind
  apply Ends.get_bind
  rw [hbutton]
  exact Ends.bind ⟨rfl, rfl⟩

section Anchored

variable {anchor : Rect K}
  (hanchor : (popup.dismiss scene).tree.bounds? popup.button = some anchor)

include hanchor

theorem popUp_without_layer (hlayer : popup.layer ∉ (popup.dismiss scene).tree.kinds) :
    Ends popup.popUp scene (fun _ _ => False) fun e after =>
      e = .missing popup.layer ∧ after = popup.dismiss scene := by
  unfold popUp
  apply Ends.modify_bind
  apply Ends.get_bind
  rw [hanchor]
  apply Ends.bind_ok rfl
  apply Ends.bind
  exact Ends.of_error (SavePanel.build_error hlayer) ⟨rfl, rfl⟩

theorem popUp_places (h : (popup.dismiss scene).Tidy)
    (hlayer : popup.layer ∈ (popup.dismiss scene).tree.kinds) :
    Ends popup.popUp scene
      (fun panel after =>
        (after.tree.bounds? panel.outer).map Rect.origin = some anchor.bottomLeft)
      fun _ _ => True := by
  unfold popUp
  apply Ends.modify_bind
  apply Ends.get_bind
  rw [hanchor]
  apply Ends.bind_ok rfl
  apply (SavePanel.build_ends h hlayer).bind_ends
  rintro panel next ⟨hopen, _⟩
  have houter : (next.tree.bounds? panel.outer).isSome :=
    placed_of_mem hopen.grown.sound ((hopen.mem_kinds _).mpr (Or.inl (by simp [SavePanel.views])))
  apply Ends.bind
  apply onTree_ends
  apply Ends.mono (Layout.place_ends {panel.outer} rfl _ next.tree)
  · rintro _ tree ⟨_, hplaced⟩
    obtain ⟨bounds, hbounds⟩ := Option.isSome_iff_exists.mp houter
    rw [hbounds, Option.map_some] at hplaced
    apply Ends.bind
    apply SavePanel.onRows_ends
    apply (SavePanel.fit_places_outer hopen.nodup hplaced).mono
    · intro _ fitted hfitted
      exact congrArg (Option.map Rect.origin) hfitted
    · exact fun _ _ _ => trivial
  · exact fun _ _ _ => trivial

end Anchored

/--
Only the panel of the button is another one, and there are no rows in other panels than before.
-/
structure Replaces (popup : PopupButton) (base : GalleryScene K T C X) (panel : SavePanel)
    (after : GalleryScene K T C X) : Prop where
  popups_eq : after.store.popups = base.store.popups.insert popup.button panel
  list_eq {other : SavePanel} (h : other.outer ≠ panel.outer) :
    other.list after.store = other.list base.store

theorem popUp_replaces (popup : PopupButton) (scene : GalleryScene K T C X) :
    Ends popup.popUp scene (fun panel after => popup.Replaces (popup.dismiss scene) panel after)
      fun _ _ => True := by
  unfold popUp
  apply Ends.modify_bind
  apply Ends.get_bind
  apply Ends.bind
  apply (sameStore_onTree _ _).mono
  · intro anchor anchored hanchored
    apply Ends.bind
    apply (SavePanel.build_spares popup.layer anchored).mono
    · intro panel next hspares
      have hspared : panel.Spares (popup.dismiss scene) anchored := .of_store_eq hanchored
      have hnext := hspared.trans hspares
      apply Ends.bind
      apply (sameStore_onTree _ _).mono
      · intro _ placed hplaced
        apply Ends.bind
        apply (SavePanel.Spares.along (SavePanel.composed_arranging panel.relays_fit) _).mono
        · intro _ fitted hfitted
          have hall := (hnext.trans (.of_store_eq hplaced)).trans hfitted
          constructor
          case popups_eq =>
            change fitted.store.popups.insert popup.button panel = _
            rw [hall.popups_eq]
          case list_eq => exact hall.list_eq
        · exact fun _ _ _ => trivial
      · exact fun _ _ _ => trivial
    · exact fun _ _ _ => trivial
  · exact fun _ _ _ => trivial

theorem popUp_cases (h : (popup.dismiss scene).Tidy) :
    Ends popup.popUp scene
      (fun panel after => popup.button ∈ (popup.dismiss scene).tree.kinds ∧
        panel.Open popup.layer (popup.dismiss scene) after ∧
        popup.PoppedUp (popup.dismiss scene) panel after ∧
        popup.Replaces (popup.dismiss scene) panel after)
      fun e after => popup.Refuses (popup.dismiss scene) e ∧ after = popup.dismiss scene := by
  by_cases hbutton : popup.button ∈ (popup.dismiss scene).tree.kinds
  · obtain ⟨anchor, hanchor⟩ := Option.isSome_iff_exists.mp (placed_of_mem h.sound hbutton)
    by_cases hlayer : popup.layer ∈ (popup.dismiss scene).tree.kinds
    · apply (Ends.and (popUp_ends h hbutton hlayer)
        ((popUp_places hanchor h hlayer).and (popUp_replaces popup scene))).mono
      · intro panel after ⟨hopened, hplaced, hreplaces⟩
        have hopen := hopened.opened
        refine ⟨hbutton, hopen, ?_, hreplaces⟩
        constructor
        case panel?_eq => exact hopened.panel?_eq
        case superview?_eq => exact hopen.superview?_outer
        case subviews_eq => exact hopen.subviews_layer
        case placed => exact ⟨anchor, hanchor, hplaced⟩
        case length_eq => exact hopened.length_eq
        case fresh => exact fun hv => hopen.fresh hv
      · exact fun _ _ hfalse => False.elim hfalse.1
    · apply (popUp_without_layer hanchor hlayer).mono
      · exact fun _ _ hfalse => hfalse.elim
      · intro e after ⟨he, hafter⟩
        exact ⟨he ▸ .layer hbutton hlayer, hafter⟩
  · have hmissing : (popup.dismiss scene).tree.bounds? popup.button = none := by
      have hformed : (popup.dismiss scene).tree.WellFormed := h.sound.wellFormed
      rw [← Option.not_isSome_iff_eq_none, hformed.placed_iff_mem]
      exact hbutton
    apply (popUp_without_button hmissing).mono
    · exact fun _ _ hfalse => hfalse.elim
    · intro e after ⟨he, hafter⟩
      exact ⟨he ▸ .button hbutton, hafter⟩

end PoppingUp

end PopupButton

end ViewMotion
