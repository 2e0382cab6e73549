import ViewMotion.Proofs.Gallery.PopupButton.Reopening

/-!
This module contains what holds for all save panels over any run in which views are taken out by the
scene only, and with it that no panel is left half open when a popup button opens the next one.
-/

namespace ViewMotion

open Scene

variable {K T C X : Type} {late : Set ViewId} {layer parent v : ViewId}
  {base scene after : GalleryScene K T C X} {panel : SavePanel} {panels : List SavePanel}

/--
All panels that have been built are confined, and no two of them have an outermost view in common.
Popup buttons have no other panels than these.
-/
structure Keeping (late : Set ViewId) (panels : List SavePanel) (scene : GalleryScene K T C X) :
    Prop where
  attended : scene.Attended late
  confined {panel : SavePanel} (h : panel ∈ panels) : panel.Confined scene
  eq_of_outer_eq {panel other : SavePanel} (h : panel ∈ panels) (hother : other ∈ panels)
    (heq : other.outer = panel.outer) : other = panel
  known {popup : PopupButton} {panel : SavePanel} (h : popup.panel? scene.store = some panel) :
    panel ∈ panels

namespace Keeping

theorem sound (h : Keeping late panels scene) : scene.named.Sound := h.attended.sound

/--
Something has happened that is no work on a panel.
-/
theorem elsewhere (h : Keeping late panels scene) (hattended : after.Attended late)
    (hstays : scene.named.Stays after.named) (hpanels : after.store.panels = scene.store.panels)
    (hknown : ∀ (popup : PopupButton) (panel : SavePanel), popup.panel? after.store = some panel →
      popup.panel? scene.store = some panel) : Keeping late panels after where
  attended := hattended
  confined {panel} hpanel := by
    apply (h.confined hpanel).stays h.sound hstays
    have hlist : panel.list after.store = panel.list scene.store := by
      unfold SavePanel.list
      rw [hpanels]
    unfold SavePanel.rows
    rw [hlist]
    exact List.Subset.refl _
  eq_of_outer_eq := h.eq_of_outer_eq
  known hpopup := h.known (hknown _ _ hpopup)

theorem tended (h : Keeping late panels scene) (hpanel : panel ∈ panels)
    (hattended : after.Attended late) (hstays : scene.named.Stays after.named)
    (htends : panel.Tends scene after) : Keeping late panels after where
  attended := hattended
  confined {other} hother := by
    by_cases heq : other.outer = panel.outer
    · rw [h.eq_of_outer_eq hpanel hother heq]
      exact (htends.confined h.sound (h.confined hpanel)).2
    · apply (h.confined hother).stays h.sound hstays
      unfold SavePanel.rows
      rw [htends.list_eq heq]
      exact List.Subset.refl _
  eq_of_outer_eq := h.eq_of_outer_eq
  known {popup p} hpopup := by
    apply h.known
    rw [← PopupButton.panel?_of_popups_eq htends.popups_eq]
    exact hpopup

theorem opened (h : Keeping late panels base) (hattended : scene.Attended late)
    (hopen : panel.Open layer base scene)
    (hlist : ∀ other : SavePanel, other.outer ≠ panel.outer →
      other.list scene.store = other.list base.store)
    (hknown : ∀ (popup : PopupButton) (p : SavePanel), popup.panel? scene.store = some p →
      p = panel ∨ popup.panel? base.store = some p) : Keeping late (panel :: panels) scene := by
  have hother {other : SavePanel} (hother : other ∈ panels) : other.outer ≠ panel.outer := by
    intro heq
    have hissued := (h.confined hother).issued (v := other.outer) (by simp [SavePanel.views])
    exact hopen.fresh (v := panel.outer) (by simp [SavePanel.views]) (heq ▸ hissued)
  constructor
  case attended => exact hattended
  case confined =>
    intro p hp
    rw [List.mem_cons] at hp
    cases hp with
    | inl heq =>
      rw [heq]
      exact hopen.confined
    | inr hp =>
      apply (h.confined hp).stays h.sound hopen.grown.stays
      unfold SavePanel.rows
      rw [hlist p (hother hp)]
      exact List.Subset.refl _
  case eq_of_outer_eq =>
    intro p q hp hq heq
    rw [List.mem_cons] at hp hq
    rcases hp with rfl | hp <;> rcases hq with rfl | hq
    · rfl
    · exact absurd heq (hother hq)
    · exact absurd heq.symm (hother hp)
    · exact h.eq_of_outer_eq hp hq heq
  case known =>
    intro popup p hpopup
    rw [List.mem_cons]
    exact (hknown popup p hpopup).imp_right h.known

end Keeping

variable [Scalar K] [Clock T]

/--
A run from a new scene on, with the panels that have been built in it. Whatever is done that is no
work on a panel may be done without much care, but views are only taken out by the scene.
-/
inductive History (late : Set ViewId) : List SavePanel → GalleryScene K T C X → Prop where
  | new (names : ViewNames) (clock : T) (defaults : MotionDefaults) (client : X) :
    History late [] (.new names clock defaults (.new client))
  | elsewhere {panels : List SavePanel} {scene after : GalleryScene K T C X}
    (h : History late panels scene) (hleads : scene.LeadsBut late after)
    (hsame : SamePanels scene after) : History late panels after
  | built {panels : List SavePanel} {scene after : GalleryScene K T C X} {parent : ViewId}
    {panel : SavePanel} (h : History late panels scene)
    (hbuild : SavePanel.build parent scene = .ok panel after) : History late (panel :: panels) after
  | notBuilt {panels : List SavePanel} {scene after : GalleryScene K T C X} {parent : ViewId}
    {e : ViewError} (h : History late panels scene)
    (hbuild : SavePanel.build parent scene = .error e after) : History late panels after
  | appended {panels : List SavePanel} {scene : GalleryScene K T C X} {panel : SavePanel}
    (h : History late panels scene) (hpanel : panel ∈ panels) (file : VideoFile) :
    History late panels (settle (panel.append file) scene)
  | refilled {panels : List SavePanel} {scene : GalleryScene K T C X} {panel : SavePanel}
    (h : History late panels scene) (hpanel : panel ∈ panels) :
    History late panels (settle panel.refill scene)
  | followed {panels : List SavePanel} {scene : GalleryScene K T C X} {panel : SavePanel}
    (h : History late panels scene) (hpanel : panel ∈ panels) (link : ViewId) :
    History late panels (settle (panel.followLink link) scene)
  | poppedUp {panels : List SavePanel} {scene after : GalleryScene K T C X} {popup : PopupButton}
    {panel : SavePanel} (h : History late panels scene)
    (hpopUp : popup.popUp scene = .ok panel after) : History late (panel :: panels) after
  | notPoppedUp {panels : List SavePanel} {scene after : GalleryScene K T C X}
    {popup : PopupButton} {e : ViewError} (h : History late panels scene)
    (hpopUp : popup.popUp scene = .error e after) : History late panels after

namespace Keeping

omit [Clock T] in
theorem new (late : Set ViewId) (names : ViewNames) (clock : T) (defaults : MotionDefaults)
    (client : X) :
    Keeping late [] (.new names clock defaults (.new client) : GalleryScene K T C X) where
  attended := by
    have hhandlers (v : ViewId) (kind : EventKind) :
        (∅ : HandlerTable (Reaction K C)).find? v kind = none :=
      Std.ExtTreeMap.getElem?_empty
    refine ⟨tidy_of_idle (NamedTree.new_sound names) hhandlers ?_, ?_⟩
    · exact fun _ => Std.ExtTreeMap.getElem?_empty
    · intro v kind handler hfind
      change (∅ : HandlerTable (Reaction K C)).find? v kind = some handler at hfind
      rw [hhandlers] at hfind
      contradiction
  confined h := absurd h List.not_mem_nil
  eq_of_outer_eq h := absurd h List.not_mem_nil
  known {popup p} h := by
    have hnone : (∅ : Std.ExtTreeMap ViewId SavePanel)[popup.button]? = none :=
      Std.ExtTreeMap.getElem?_empty
    change (∅ : Std.ExtTreeMap ViewId SavePanel)[popup.button]? = some p at h
    rw [hnone] at h
    contradiction

variable (h : Keeping late panels scene)

include h

theorem led (hleads : scene.LeadsBut late after) (hsame : SamePanels scene after) :
    Keeping late panels after := by
  apply h.elsewhere (hleads.attended h.attended) (hleads.stays h.sound) hsame.panels_eq
  intro popup p hpopup
  rw [← PopupButton.panel?_of_popups_eq hsame.popups_eq]
  exact hpopup

theorem worked {α : Type} {writes : GalleryScene K T C X → GalleryScene K T C X → Prop}
    {action : GalleryM ViewError K T C X α} {learned : α → List ViewId}
    (hpanel : panel ∈ panels) (hcomposed : Composed (BasicStep writes) [] action learned)
    (htends : Along panel.Tends action) : Keeping late panels (settle action scene) := by
  have hleads := (hcomposed.careful.settle scene).leadsBut late
  apply h.tended hpanel (hleads.attended h.attended) (hleads.stays h.sound)
  exact settle_of_ends (panel.Tends scene) (htends scene)

theorem built (hbuild : SavePanel.build parent scene = .ok panel after) :
    Keeping late (panel :: panels) after := by
  have hparent : parent ∈ scene.tree.kinds := by
    by_contra hmissing
    rw [SavePanel.build_error hmissing] at hbuild
    contradiction
  have hleads := ((SavePanel.composed_build parent).careful.leads_of_ok hbuild).leadsBut late
  have hspares := (SavePanel.build_spares parent scene).of_eq hbuild
  obtain ⟨hopen, -⟩ := (SavePanel.build_ends h.attended.toTidy hparent).of_eq hbuild
  apply h.opened (hleads.attended h.attended) hopen fun _ => hspares.list_eq
  intro popup p hpopup
  rw [PopupButton.panel?_of_popups_eq hspares.popups_eq] at hpopup
  exact Or.inr hpopup

theorem notBuilt {e : ViewError} (hbuild : SavePanel.build parent scene = .error e after) :
    Keeping late panels after := by
  by_cases hparent : parent ∈ scene.tree.kinds
  · exact False.elim ((SavePanel.build_ends h.attended.toTidy hparent).of_eq_error hbuild)
  · rw [SavePanel.build_error hparent] at hbuild
    injection hbuild with _ hafter
    exact hafter ▸ h

theorem dismissed (popup : PopupButton) : Keeping late panels (popup.dismiss scene) := by
  have hleads : scene.LeadsBut late (popup.dismiss scene) :=
    (popup.composed_dismiss.careful.settle scene).leadsBut late
  obtain ⟨hpanels, hpopups⟩ := popup.dismiss_store scene
  apply h.elsewhere (hleads.attended h.attended) (hleads.stays h.sound) hpanels
  intro other p hother
  rw [hpopups] at hother
  split at hother
  · contradiction
  · exact hother

theorem poppedUp {popup : PopupButton} (hpopUp : popup.popUp scene = .ok panel after) :
    Keeping late (panel :: panels) after := by
  have hdismissed := h.dismissed popup
  have hleads := (popup.composed_popUp.careful.leads_of_ok hpopUp).leadsBut late
  obtain ⟨-, hopen, -, hreplaces⟩ :=
    (PopupButton.popUp_cases hdismissed.attended.toTidy).of_eq hpopUp
  apply hdismissed.opened (hleads.attended h.attended) hopen fun _ => hreplaces.list_eq
  intro other p hother
  unfold PopupButton.panel? at hother ⊢
  rw [hreplaces.popups_eq, Std.ExtTreeMap.getElem?_insert] at hother
  split at hother
  · injection hother with heq
    exact Or.inl heq.symm
  · exact Or.inr hother

theorem notPoppedUp {popup : PopupButton} {e : ViewError}
    (hpopUp : popup.popUp scene = .error e after) : Keeping late panels after := by
  have hdismissed := h.dismissed popup
  obtain ⟨-, hafter⟩ :=
    (PopupButton.popUp_cases hdismissed.attended.toTidy).of_eq_error hpopUp
  exact hafter ▸ hdismissed

end Keeping

theorem History.keeping (h : History late panels scene) : Keeping late panels scene := by
  induction h with
  | new names clock defaults client => exact .new late names clock defaults client
  | elsewhere _ hleads hsame ih => exact ih.led hleads hsame
  | built _ hbuild ih => exact ih.built hbuild
  | notBuilt _ hbuild ih => exact ih.notBuilt hbuild
  | @appended _ _ panel _ hpanel file ih =>
    exact ih.worked hpanel (panel.works_sparing.append file) (panel.tends_append file)
  | @refilled _ _ panel _ hpanel ih =>
    exact ih.worked hpanel (panel.works_sparing.refill []) panel.tends_refill
  | @followed _ _ panel _ hpanel link ih =>
    exact ih.worked hpanel (panel.works_sparing.followLink link) (panel.tends_followLink link)
  | poppedUp _ hpopUp ih => exact ih.poppedUp hpopUp
  | notPoppedUp _ hpopUp ih => exact ih.notPoppedUp hpopUp

namespace History

variable (h : History late panels scene)

include h

theorem led {ε α : Type} {action : GalleryM ε K T C X α} {learned : α → List ViewId}
    (hcomposed : Composed (BasicStep SamePanels) [] action learned) :
    History late panels (settle action scene) :=
  h.elsewhere ((hcomposed.careful.settle scene).leadsBut late)
    (settle_of_ends (SamePanels scene) (SamePanels.along hcomposed scene))

end History

namespace PopupButton

variable {popup : PopupButton}

/--
No view of the panel that the button had is in the tree, nor is one that somebody has put inside of
it, and there are handlers only for those that somebody came `late` to listen to.
-/
def Vacated (popup : PopupButton) (late : Set ViewId) (scene after : GalleryScene K T C X) : Prop :=
  ∀ previous, popup.panel? scene.store = some previous → ∀ v, previous.Holds scene v →
    v ∉ after.tree.kinds ∧ (v ∉ late → ∀ kind, after.handlers.find? v kind = none)

/--
Nothing is there that was not there before, and no view has been made in the meantime.
-/
structure OnlyLoses (scene after : GalleryScene K T C X) : Prop where
  names_eq : after.names = scene.names
  mem_kinds {v : ViewId} (hv : v ∈ after.tree.kinds) : v ∈ scene.tree.kinds
  find?_eq {v : ViewId} {kind : EventKind} {handler : Handler (Reaction K C)}
    (h : after.handlers.find? v kind = some handler) :
    scene.handlers.find? v kind = some handler

theorem dismiss_onlyLoses (h : scene.named.Sound) (popup : PopupButton) :
    OnlyLoses scene (popup.dismiss scene) := by
  cases hpanel : popup.panel? scene.store with
  | none =>
    rw [dismiss_of_none hpanel]
    exact ⟨rfl, fun hv => hv, fun h => h⟩
  | some previous =>
    have hforgotten : (popup.forgetPanel scene).named.Sound := h
    obtain ⟨gone, hwithout⟩ := exists_without_remove hforgotten previous.outer
    rw [dismiss_of_some hpanel]
    constructor
    case names_eq => exact hwithout.names_eq
    case mem_kinds => exact fun hv => ((hwithout.mem_kinds _).mp hv).2
    case find?_eq =>
      intro v kind handler hfind
      rw [hwithout.find?_eq] at hfind
      split at hfind
      · contradiction
      · exact hfind

theorem vacated_of_stays (h : Keeping late panels scene) (hattended : after.Attended late)
    (hstays : (popup.dismiss scene).named.Stays after.named) :
    popup.Vacated late scene after := by
  intro previous hprevious v hv
  have hconfined := h.confined (h.known hprevious)
  have hissued : (popup.dismiss scene).names.Issued v := by
    rw [(dismiss_onlyLoses h.sound popup).names_eq]
    exact hconfined.issued_of_holds h.sound hv
  have hgone : v ∉ after.tree.kinds := fun hleft =>
    dismiss_takes_out hconfined h.sound hprevious hv (hstays.mem_of_left hissued hleft)
  exact ⟨hgone, fun hlate kind => hattended.find?_eq_none_of_gone hgone hlate kind⟩

/--
Whatever has been done before, of the panel that the button had nothing is left. Either there is all
of a new one, or the button or its layer is missing and there is nothing of it.
-/
theorem popUp_all_or_nothing (h : History late panels scene) (popup : PopupButton) :
    let dismissed := popup.dismiss scene
    Ends popup.popUp scene
      (fun panel after => popup.button ∈ dismissed.tree.kinds ∧
        popup.layer ∈ dismissed.tree.kinds ∧ popup.PoppedUp dismissed panel after ∧
        popup.Vacated late scene after)
      (fun e after => popup.Refuses dismissed e ∧ popup.panel? after.store = none ∧
        after = dismissed ∧ OnlyLoses scene after ∧ popup.Vacated late scene after) := by
  intro dismissed
  have hkeeping := h.keeping
  have hdismissed : Keeping late panels dismissed := hkeeping.dismissed popup
  apply ((popup.composed_popUp.careful scene (by simp [Has])).and
    (popUp_cases hdismissed.attended.toTidy)).mono
  · rintro panel after ⟨⟨hleads, _⟩, hbutton, hopen, hpopped, _⟩
    have hattended := (hleads.leadsBut late).attended hkeeping.attended
    exact ⟨hbutton, hopen.layer_mem, hpopped,
      vacated_of_stays hkeeping hattended hopen.grown.stays⟩
  · rintro e after ⟨_, hrefuses, hafter⟩
    subst hafter
    have hnone : popup.panel? (popup.dismiss scene).store = none := by
      rw [(popup.dismiss_store scene).2, if_pos rfl]
    exact ⟨hrefuses, hnone, rfl, dismiss_onlyLoses hkeeping.sound popup,
      vacated_of_stays hkeeping hdismissed.attended (.refl hdismissed.sound)⟩

theorem popUp_all_or_nothing_again :
    let start : GalleryScene Rat ManualClock Empty Unit := .new .counted .atEpoch {} (.new ())
    let layered := start.perform (.onTree (.insert ⟨0⟩ .container))
    let built := settle (build ⟨0⟩ ⟨1⟩) layered
    let popup : PopupButton := ⟨⟨2⟩, ⟨1⟩⟩
    let panel : SavePanel := ⟨⟨3⟩, ⟨4⟩, ⟨5⟩, ⟨6⟩, ⟨7⟩, ⟨8⟩⟩
    let shown := settle popup.popUp built
    let dismissed := popup.dismiss shown
    History ∅ [panel] shown ∧ popup.panel? shown.store = some panel ∧
      Ends popup.popUp shown
        (fun panel after => popup.button ∈ dismissed.tree.kinds ∧
          popup.layer ∈ dismissed.tree.kinds ∧ popup.PoppedUp dismissed panel after ∧
          popup.Vacated ∅ shown after)
        (fun e after => popup.Refuses dismissed e ∧ popup.panel? after.store = none ∧
          after = dismissed ∧ OnlyLoses shown after ∧ popup.Vacated ∅ shown after) := by
  intro start layered built popup panel shown dismissed
  have hstart : History ∅ [] start := .new .counted ManualClock.atEpoch {} ()
  have hlayered : History ∅ [] layered :=
    hstart.elsewhere ((start.leads_perform (.onTree (.insert ⟨0⟩ .container)) trivial).leadsBut ∅)
      ⟨rfl, rfl⟩
  have hbuilt : History ∅ [] built :=
    hlayered.led (composed_build ⟨0⟩ ⟨1⟩)
  have hvalues : popup.popUp.run' built = some panel ∧ popup.panel? shown.store = some panel := by
    decide +kernel
  have hshown : History ∅ [panel] shown := hbuilt.poppedUp (eq_ok_of_run' hvalues.1)
  exact ⟨hshown, hvalues.2, popUp_all_or_nothing hshown popup⟩

/--
Somebody listens to the title of a panel that is not in the tree any more, and still does so once
the button has opened the next panel.
-/
theorem popUp_leaves_late_listener :
    let start : GalleryScene Rat ManualClock Unit Unit := .new .counted .atEpoch {} (.new ())
    let layered := start.perform (.onTree (.insert ⟨0⟩ .container))
    let built := settle (build ⟨0⟩ ⟨1⟩) layered
    let popup : PopupButton := ⟨⟨2⟩, ⟨1⟩⟩
    let panel : SavePanel := ⟨⟨3⟩, ⟨4⟩, ⟨5⟩, ⟨6⟩, ⟨7⟩, ⟨8⟩⟩
    let shown := settle popup.popUp built
    let removed := settle (Scene.remove panel.outer) shown
    let heard := removed.register panel.title .linkClicked (.client ())
    let again := settle popup.popUp heard
    popup.panel? heard.store = some panel ∧
      panel.title ∈ panel.links (panel.rows heard.store) ∧ (popup.popUp.run' heard).isSome ∧
      (again.handlers.find? panel.title .linkClicked).isSome := by
  decide +kernel

end PopupButton

end ViewMotion
