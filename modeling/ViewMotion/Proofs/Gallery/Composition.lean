import ViewMotion.Gallery.Reaction
import ViewMotion.Proofs.Gallery.Layout
import ViewMotion.Proofs.Scene.Composition

/-!
This module contains what the actions of the gallery are composed of, and what each of them changes
of what the demos remember.
-/

namespace ViewMotion

open Scene Layout

variable {K T C X ε α : Type}

section Remembering

variable {scene next after : GalleryScene K T C X}

/--
Neither the rows of the panels nor those that have been popped up are others than before.
-/
structure SamePanels (scene after : GalleryScene K T C X) : Prop where
  panels_eq : after.store.panels = scene.store.panels
  popups_eq : after.store.popups = scene.store.popups

namespace SamePanels

theorem of_sameStore (h : scene.SameStore after) : SamePanels scene after :=
  ⟨congrArg _ h, congrArg _ h⟩

theorem trans (h : SamePanels scene next) (h' : SamePanels next after) : SamePanels scene after :=
  ⟨h'.panels_eq.trans h.panels_eq, h'.popups_eq.trans h.popups_eq⟩

end SamePanels

namespace SavePanel

variable {panel : SavePanel}

/--
The rows of all other panels are as before, and so are the panels that have been popped up.
-/
structure Spares (panel : SavePanel) (scene after : GalleryScene K T C X) : Prop where
  popups_eq : after.store.popups = scene.store.popups
  list_eq {other : SavePanel} (h : other.outer ≠ panel.outer) :
    other.list after.store = other.list scene.store

theorem Spares.of_store_eq (h : after.store = scene.store) : panel.Spares scene after :=
  ⟨congrArg _ h, fun _ => congrArg _ h⟩

theorem Spares.refl (panel : SavePanel) (scene : GalleryScene K T C X) :
    panel.Spares scene scene :=
  .of_store_eq rfl

theorem Spares.trans (h : panel.Spares scene next) (h' : panel.Spares next after) :
    panel.Spares scene after :=
  ⟨h'.popups_eq.trans h.popups_eq, fun hother => (h'.list_eq hother).trans (h.list_eq hother)⟩

theorem spares_setList (panel : SavePanel) (list : RowList) (scene : GalleryScene K T C X) :
    panel.Spares scene (panel.setList list scene) := by
  refine ⟨rfl, ?_⟩
  intro other hother
  unfold SavePanel.list setList
  dsimp only
  rw [Std.ExtTreeMap.getElem?_insert, if_neg]
  rw [Std.LawfulEqOrd.compare_eq_iff_eq]
  exact Ne.symm hother

end SavePanel

end Remembering

variable [Scalar K] [Clock T]

theorem SamePanels.along {known : List ViewId} {action : GalleryM ε K T C X α}
    {learned : α → List ViewId} (h : Composed (BasicStep SamePanels) known action learned) :
    Along SamePanels action :=
  h.along_of_writes (fun _ _ => .of_sameStore) (fun _ _ hsame => hsame) fun _ _ _ => .trans

theorem SavePanel.Spares.along {panel : SavePanel} {known : List ViewId}
    {action : GalleryM ε K T C X α} {learned : α → List ViewId}
    (h : Composed (BasicStep panel.Spares) known action learned) : Along panel.Spares action :=
  h.along_of_writes (fun _ _ => .of_store_eq) (fun _ _ hspares => hspares) fun _ _ _ => .trans

namespace BoxDemo

theorem composed_build (container : ViewId) :
    Composed (BasicStep SamePanels) [] (build container : GalleryM ViewError K T C X BoxDemo)
      fun _ => [] := by
  unfold build
  apply Composed.bind (.step (.add container _))
  intro field
  apply Composed.bind (.step (.add field _))
  intro box
  apply Composed.bind (.step (.add container _))
  intro button
  apply Composed.bind (.step (.onTree (relays_layout _)))
  intro _
  apply Composed.bind (.step (.register List.mem_cons_self .pressed _))
  exact fun _ => .pure (List.nil_subset _)

theorem composed_send (demo : BoxDemo) (destination : Rect K) :
    Composed (BasicStep SamePanels) []
      (demo.send destination : GalleryM (MotionError K) K T C X Unit) fun _ => [] :=
  .step (.start demo.box destination duration)

end BoxDemo

namespace BubbleBoard

omit [Scalar K] [Clock T] in
theorem writes_setState (board : BubbleBoard) (state : BoardState) :
    Writes SamePanels fun scene : GalleryScene K T C X =>
      (PUnit.unit, board.setState state scene) where
  store _ := ⟨_, rfl⟩
  queue _ _ := rfl
  writes _ := ⟨rfl, rfl⟩

theorem composed_build (container layer : ViewId) :
    Composed (BasicStep SamePanels) []
      (build container layer : GalleryM ViewError K T C X BubbleBoard) fun _ => [] := by
  unfold build
  apply Composed.bind (.step (.add container _))
  intro first
  apply Composed.bind (.step (.add container _))
  intro second
  apply Composed.bind (.step (.add container _))
  intro third
  apply Composed.bind (.step (.add container _))
  intro fourth
  apply Composed.bind (.step (.onTree (relays_lineUp container 1)))
  intro _
  apply Composed.bind (.step (.write (writes_setState _ {})))
  intro _
  apply Composed.bind
  · apply Composed.forM
    intro (v, style) hentry
    apply Composed.step
    apply BasicStep.register _ .pressed
    have hv := (List.of_mem_zip hentry).1
    simpa [buttons, or_comm, or_assoc, or_left_comm] using hv
  · exact fun _ => .pure (List.nil_subset _)

theorem composed_freeze (known : List ViewId) (board : BubbleBoard) :
    Composed (BasicStep SamePanels) known (modify board.freeze : GalleryM ε K T C X Unit)
      fun _ => known := by
  have heq : (modify board.freeze : GalleryM ε K T C X Unit) = (do
      (board.current (← get).store).elim (modify (board.setState {})) fun previous => do
        modify fun scene => (scene.stop previous).2
        modify (board.setState {})) := by
    funext scene
    rw [Ends.get_bind_eq]
    change EStateM.Result.ok () (board.freeze scene) = _
    unfold freeze
    cases board.current scene.store <;> rfl
  rw [heq]
  refine .read (fun scene => ?_) fun _ _ => rfl
  cases board.current scene.store with
  | none => exact .step (.write (board.writes_setState {}))
  | some previous =>
    exact Composed.bind (.step (.stop previous)) fun _ => .step (.write (board.writes_setState {}))

theorem composed_present (board : BubbleBoard) (anchor : ViewId) (style : BubbleStyle K) :
    Composed (BasicStep SamePanels) []
      (board.present anchor style : GalleryM (GalleryError K) K T C X ViewId) fun _ => [] := by
  have place (known : List ViewId) (v : ViewId) (bounds : Rect K) :
      Composed (BasicStep SamePanels) known
        (present.place v bounds : GalleryM (GalleryError K) K T C X Unit) fun _ => known :=
    .step (.onTree (relays_place v bounds))
  have move (known : List ViewId) (v : ViewId) (bounds : Rect K) :
      Composed (BasicStep SamePanels) known
        (present.move v bounds : GalleryM (GalleryError K) K T C X Unit) fun _ => known :=
    .adaptExcept GalleryError.motion (.step (.start v bounds duration))
  unfold present
  apply (composed_freeze [] board).bind
  intro _
  refine .read (fun scene => ?_) fun _ _ => rfl
  apply Composed.bind (.adaptExcept GalleryError.view (.step (.onTree (relays_require anchor _))))
  intro bounds
  apply Composed.bind (.adaptExcept GalleryError.view (.step (.add board.layer _)))
  intro bubble
  apply Composed.bind (.adaptExcept GalleryError.view (.step (.add bubble _)))
  intro caption
  apply (place _ caption _).bind
  intro _
  apply Composed.bind (.step (.write (board.writes_setState _)))
  intro _
  have fade : Composed (BasicStep SamePanels) [caption, bubble] (do
      if style.fadesOut then
        present.move bubble (hidden bounds)
        modify (board.setState { current := some bubble, fading := true })
        modify (Scene.register bubble .motionEnded (.closeFaded board))
      return bubble : GalleryM (GalleryError K) K T C X ViewId) fun _ => [] := by
    dsimp only
    split
    · apply (move _ bubble _).bind
      intro _
      apply Composed.bind (.step (.write (board.writes_setState _)))
      intro _
      apply Composed.bind (.step (.register (by simp) .motionEnded _))
      exact fun _ => .pure (List.nil_subset _)
    · exact .pure (List.nil_subset _)
  dsimp only
  split
  · exact (place _ bubble _).bind fun _ => (move _ bubble _).bind fun _ => fade
  · exact (place _ bubble _).bind fun _ => (move _ bubble _).bind fun _ => fade

theorem composed_closeFaded (board : BubbleBoard) (event : Event) :
    Composed (BasicStep SamePanels) []
      (board.closeFaded event : GalleryM ViewError K T C X Unit) fun _ => [] := by
  unfold closeFaded
  refine .read (fun scene => ?_) fun _ _ => rfl
  dsimp only
  split
  · apply Composed.bind (.step (.write (board.writes_setState {})))
    exact fun _ => .step (.remove event.source)
  · exact .pure (List.nil_subset _)

end BubbleBoard

namespace SavePanel

section Working

variable {step : StepRule K T (Reaction K C) (Gallery X)} {panel : SavePanel}

omit [Scalar K] [Clock T] in
theorem composed_onRows {known : List ViewId} {learned : α → List ViewId}
    {action : List Row → EStateM ε (ViewTree K) α}
    (h : ∀ rows, Composed step known (onTree (action rows) : GalleryM ε K T C X α) learned) :
    Composed step known (panel.onRows action : GalleryM ε K T C X α) learned :=
  .read (fun _ => h _) fun _ _ => rfl

/--
What work on a panel is composed of. That a row is added counts as a step of it.
-/
structure Works (panel : SavePanel) (step : StepRule K T (Reaction K C) (Gallery X)) : Prop where
  clear (known : List ViewId) :
    Composed step known (Scene.clear panel.content : GalleryM ViewError K T C X Unit) fun _ => []
  setRows :
    Composed step [] (modify (panel.setRows []) : GalleryM ViewError K T C X Unit) fun _ => []
  onTree {layout : EStateM ViewError (ViewTree K) Unit} (h : Relays layout) :
    Composed step [] (Scene.onTree layout : GalleryM ViewError K T C X Unit) fun _ => []
  append (file : VideoFile) :
    Composed step [] (panel.append file : GalleryM ViewError K T C X Row) fun _ => []

theorem Works.refill (h : panel.Works step) (known : List ViewId) :
    Composed step known (panel.refill : GalleryM ViewError K T C X Unit) fun _ => [] := by
  unfold SavePanel.refill
  apply (h.clear known).bind
  intro _
  apply h.setRows.bind
  intro _
  apply (h.onTree (relays_scrollTo panel 0)).bind
  intro _
  apply Composed.bind
  · exact Composed.forM _ fun file _ => (h.append file).discard
  · exact fun _ => composed_onRows fun rows => h.onTree (relays_layoutGrid panel rows)

theorem Works.followLink (h : panel.Works step) (link : ViewId) :
    Composed step [] (panel.followLink link : GalleryM ViewError K T C X Unit) fun _ => [] := by
  have grid : Composed step [] (panel.onRows panel.layoutGrid : GalleryM ViewError K T C X Unit)
      fun _ => [] :=
    composed_onRows fun rows => h.onTree (relays_layoutGrid panel rows)
  have fit : Composed step [] (panel.onRows panel.fit : GalleryM ViewError K T C X Unit)
      fun _ => [] :=
    composed_onRows fun rows => h.onTree (relays_fit panel rows)
  unfold SavePanel.followLink
  refine .read (fun scene => ?_) fun _ _ => rfl
  have appends : Composed step [] (do
      let offset := panel.scrolled scene.tree
      let _ ← panel.append .added
      panel.onRows panel.layoutGrid
      panel.onRows panel.fit
      if offset != 0 then Scene.onTree (panel.scrollTo offset)
      : GalleryM ViewError K T C X Unit) fun _ => [] := by
    dsimp only
    apply (h.append _).bind
    intro _
    apply grid.bind
    intro _
    apply fit.bind
    intro _
    split
    · exact h.onTree (relays_scrollTo panel _)
    · exact .pure (List.nil_subset _)
  dsimp only
  split
  · exact (h.refill []).bind fun _ => fit
  all_goals exact appends

end Working

section Steps

variable {writes : GalleryScene K T C X → GalleryScene K T C X → Prop} {panel : SavePanel}
  (hwrites : ∀ scene after, panel.Spares scene after → writes scene after)

include hwrites

omit [Scalar K] [Clock T] in
theorem writes_setList {f : GalleryScene K T C X → α × GalleryScene K T C X}
    (hlist : ∀ scene, ∃ list, (f scene).2 = panel.setList list scene)
    (hqueue : ∀ scene queue, f (scene.withQueue queue) =
      ((f scene).1, (f scene).2.withQueue queue)) : Writes writes f where
  store scene := by
    obtain ⟨list, heq⟩ := hlist scene
    exact ⟨_, heq⟩
  queue := hqueue
  writes scene := by
    obtain ⟨list, heq⟩ := hlist scene
    rw [heq]
    exact hwrites _ _ (panel.spares_setList list scene)

theorem composed_append (file : VideoFile) :
    Composed (BasicStep writes) [] (panel.append file : GalleryM ViewError K T C X Row)
      fun _ => [] := by
  unfold append
  apply Composed.bind (.step (.add panel.content _))
  intro icon
  apply Composed.bind (.step (.add panel.content _))
  intro name
  apply Composed.bind (.step (.add panel.content _))
  intro size
  apply Composed.bind (.step (.add panel.content _))
  intro link
  apply Composed.bind (.step (.write (writes_setList hwrites (fun _ => ⟨_, rfl⟩) fun _ _ => rfl)))
  intro group
  dsimp only
  apply Composed.bind (.forM _ fun cell _ => .step (.setGroup cell group))
  intro _
  apply Composed.bind (.step (.register List.mem_cons_self .linkClicked _))
  intro _
  apply Composed.bind (.step (.write (writes_setList hwrites (fun _ => ⟨_, rfl⟩) fun _ _ => rfl)))
  exact fun _ => .pure (List.nil_subset _)

theorem works_of_spares : panel.Works (BasicStep writes) where
  clear known := composed_clear known panel.content
  setRows := .step (.write (writes_setList hwrites (fun _ => ⟨_, rfl⟩) fun _ _ => rfl))
  onTree h := .step (.onTree h)
  append := composed_append hwrites

omit hwrites in
theorem composed_arranging {action : List Row → EStateM ε (ViewTree K) α}
    (h : ∀ rows, Relays (action rows)) :
    Composed (BasicStep writes) [] (panel.onRows action : GalleryM ε K T C X α) fun _ => [] :=
  composed_onRows fun rows => .step (.onTree (h rows))

end Steps

theorem works_sparing (panel : SavePanel) :
    panel.Works (BasicStep panel.Spares : StepRule K T (Reaction K C) (Gallery X)) :=
  works_of_spares fun _ _ h => h

theorem spares_append (panel : SavePanel) (file : VideoFile) :
    Along panel.Spares (panel.append file : GalleryM ViewError K T C X Row) :=
  Spares.along (panel.works_sparing.append file)

theorem composed_build (parent : ViewId) :
    Composed (BasicStep fun _ _ => True) [] (build parent : GalleryM ViewError K T C X SavePanel)
      fun _ => [] := by
  unfold build
  apply Composed.bind (.step (.add parent _))
  intro outer
  apply Composed.bind (.step (.add outer _))
  intro bar
  apply Composed.bind (.step (.add bar _))
  intro title
  apply Composed.bind (.step (.add bar _))
  intro saveAll
  apply Composed.bind (.step (.add outer _))
  intro viewport
  apply Composed.bind (.step (.add viewport _))
  intro content
  dsimp only
  apply Composed.bind
    (.step (.write (writes_setList (fun _ _ _ => trivial) (fun _ => ⟨_, rfl⟩) fun _ _ => rfl)))
  intro _
  apply Composed.bind (.step (.register (by simp) .linkClicked _))
  intro _
  apply Composed.bind (.step (.register (by simp) .linkClicked _))
  intro _
  apply ((works_of_spares fun _ _ _ => trivial).refill _).bind
  exact fun _ => .pure (List.nil_subset _)

end SavePanel

namespace PopupButton

theorem composed_build (container layer : ViewId) :
    Composed (BasicStep SamePanels) []
      (build container layer : GalleryM ViewError K T C X PopupButton) fun _ => [] := by
  unfold build
  apply Composed.bind (.step (.add container _))
  intro button
  apply Composed.bind (.step (.onTree (relays_fit button)))
  intro _
  apply Composed.bind (.step (.register List.mem_cons_self .pressed _))
  exact fun _ => .pure (List.nil_subset _)

section Dismissing

omit [Scalar K]

variable {popup : PopupButton} {scene : GalleryScene K T C X}

theorem dismiss_of_none (h : popup.panel? scene.store = none) : popup.dismiss scene = scene := by
  unfold dismiss
  rw [h]

theorem dismiss_of_some {previous : SavePanel} (h : popup.panel? scene.store = some previous) :
    popup.dismiss scene = settle (remove previous.outer) (popup.forgetPanel scene) := by
  unfold dismiss settle
  rw [h]
  dsimp only
  cases remove previous.outer (popup.forgetPanel scene) <;> rfl

end Dismissing

theorem composed_dismiss (popup : PopupButton) :
    Composed (BasicStep fun _ _ => True) [] (modify popup.dismiss : GalleryM ViewError K T C X Unit)
      fun _ => [] := by
  have heq : (modify popup.dismiss : GalleryM ViewError K T C X Unit) = (do
      (popup.panel? (← get).store).elim (pure ()) fun previous => do
        modify popup.forgetPanel
        modify (settle (remove previous.outer))) := by
    funext scene
    rw [Ends.get_bind_eq]
    change EStateM.Result.ok () (popup.dismiss scene) = _
    cases hpanel : popup.panel? scene.store with
    | none =>
      rw [dismiss_of_none hpanel]
      rfl
    | some previous =>
      rw [dismiss_of_some hpanel]
      rfl
  rw [heq]
  refine .read (fun scene => ?_) fun _ _ => rfl
  cases popup.panel? scene.store with
  | none => exact .pure (List.nil_subset _)
  | some previous =>
    apply Composed.bind (.step (.write ⟨fun _ => ⟨_, rfl⟩, fun _ _ => rfl, fun _ => trivial⟩))
    exact fun _ => .settle (.step (.remove previous.outer))

theorem composed_popUp (popup : PopupButton) :
    Composed (BasicStep fun _ _ => True) [] (popup.popUp : GalleryM ViewError K T C X SavePanel)
      fun _ => [] := by
  unfold popUp
  apply popup.composed_dismiss.bind
  intro _
  refine .read (fun scene => ?_) fun _ _ => rfl
  apply Composed.bind (.step (.onTree (relays_require popup.button _)))
  intro anchor
  apply (SavePanel.composed_build popup.layer).bind
  intro panel
  apply Composed.bind (.step (.onTree (relays_place panel.outer _)))
  intro _
  apply (SavePanel.composed_arranging panel.relays_fit).bind
  intro _
  apply Composed.bind (.step (.write ⟨fun _ => ⟨_, rfl⟩, fun _ _ => rfl, fun _ => trivial⟩))
  exact fun _ => .pure (List.nil_subset _)

end PopupButton

/--
A handler of a demo does nothing but an action that is composed of requests.
-/
theorem Reaction.program_eq_quietly
    (client : C → Event → Program (Reaction K C) (GalleryScene K T C X) Unit)
    {reaction : Reaction K C} (hdemo : ∀ code, reaction ≠ .client code) (event : Event) :
    ∃ (ε α : Type) (action : GalleryM ε K T C X α)
      (writes : GalleryScene K T C X → GalleryScene K T C X → Prop) (learned : α → List ViewId),
      program client reaction event = program.quietly action ∧
        Composed (BasicStep writes) [] action learned := by
  cases reaction with
  | sendBox demo => exact ⟨_, _, _, _, _, rfl, demo.composed_send BoxDemo.destination⟩
  | presentBubble board style =>
    exact ⟨_, _, _, _, _, rfl, board.composed_present event.source style⟩
  | closeFaded board => exact ⟨_, _, _, _, _, rfl, board.composed_closeFaded event⟩
  | followLink panel =>
    exact ⟨_, _, _, _, _, rfl, panel.works_sparing.followLink event.source⟩
  | popUp popup => exact ⟨_, _, _, _, _, rfl, popup.composed_popUp⟩
  | client code => exact absurd rfl (hdemo code)

end ViewMotion
