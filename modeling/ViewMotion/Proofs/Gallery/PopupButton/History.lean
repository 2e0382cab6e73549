import ViewMotion.Clock.Manual
import ViewMotion.Proofs.ExactScalar
import ViewMotion.Proofs.Gallery.PopupButton.Opening

/-!
This module contains what holds for a popup button and its panels over any run in which the button
is pressed, links are clicked, panels are scrolled and frames are made.
-/

namespace ViewMotion

/--
What the loop is told, and what somebody does to the panel without an event.
-/
inductive PanelRequest (K : Type) where
  | handle (message : Message)
  | scroll (offset : K)

namespace PanelRequest

variable {K : Type}

def opens : PanelRequest K → Bool
  | .handle (.input event) => event.kind = .pressed
  | _ => false

end PanelRequest

namespace PopupButton

variable {K T C X : Type}

/--
Presses of the button, clicks on links that have come after `base`, and frames are what the button
and its panels have to do with.
-/
def Hears (popup : PopupButton) (base : GalleryScene K T C X) : PanelRequest K → Prop
  | .handle (.input event) =>
    event.kind = .pressed ∧ event.source = popup.button ∨
      event.kind = .linkClicked ∧ ¬ base.names.Issued event.source
  | .handle (.frame _) => True
  | .handle .quit => False
  | .scroll _ => True

instance (popup : PopupButton) (base : GalleryScene K T C X) :
    DecidablePred (popup.Hears base : PanelRequest K → Prop)
  | .handle (.input event) => inferInstanceAs (Decidable (event.kind = .pressed ∧
      event.source = popup.button ∨ event.kind = .linkClicked ∧ ¬ base.names.Issued event.source))
  | .handle (.frame _) => .isTrue trivial
  | .handle .quit => .isFalse id
  | .scroll _ => .isTrue trivial

/--
How many clicks have added a row to the panel since its rows were replaced, if there have been
`clicks` of them before the request.
-/
def countClicks (popup : PopupButton) (gallery : Gallery X) (clicks : Nat) : PanelRequest K → Nat
  | .handle (.input event) =>
    if event.kind = .pressed then 0
    else
      match popup.panel? gallery with
      | none => clicks
      | some panel =>
        if event.source = panel.saveAll then 0
        else if event.source ∈ panel.title :: (panel.rows gallery).map Row.link then clicks + 1
        else clicks
  | _ => clicks

/--
All rows that the panel has ever had, if it had those that are `made` before.
-/
def listMade (popup : PopupButton) (before after : Gallery X) (made : List Row) : List Row :=
  let kept := if popup.panel? after = popup.panel? before then made else []
  match popup.panel? after with
  | none => []
  | some panel => kept ++ (panel.rows after).filter (· ∉ kept)

variable [Scalar K] [Clock T]

def perform (popup : PopupButton) (interpreter : Interpreter (Reaction K C) (GalleryScene K T C X))
    (loop : EventLoop K T (Reaction K C) (Gallery X)) :
    PanelRequest K → EventLoop K T (Reaction K C) (Gallery X)
  | .handle message => loop.handle interpreter message
  | .scroll offset =>
    match popup.panel? loop.scene.store with
    | none => loop
    | some panel =>
      { loop with scene := Scene.settle (Scene.onTree (panel.scrollTo offset)) loop.scene }

end PopupButton

/--
An event loop with a popup button, the number of clicks that have added rows to its panel, and the
rows that the panel has ever had.
-/
structure PanelSession (K T C X : Type) where
  loop : EventLoop K T (Reaction K C) (Gallery X)
  clicks : Nat
  made : List Row

namespace PanelSession

variable {K T C X : Type}

def start (built : GalleryScene K T C X) : PanelSession K T C X := ⟨⟨built, false⟩, 0, []⟩

variable [Scalar K] [Clock T]

def perform (popup : PopupButton) (interpreter : Interpreter (Reaction K C) (GalleryScene K T C X))
    (session : PanelSession K T C X) (request : PanelRequest K) : PanelSession K T C X :=
  let gallery := session.loop.scene.store
  let loop := popup.perform interpreter session.loop request
  {
    loop
    clicks := popup.countClicks gallery session.clicks request
    made := popup.listMade gallery loop.scene.store session.made
  }

def run (popup : PopupButton) (interpreter : Interpreter (Reaction K C) (GalleryScene K T C X))
    (session : PanelSession K T C X) (requests : List (PanelRequest K)) : PanelSession K T C X :=
  requests.foldl (perform popup interpreter) session

theorem run_loop (popup : PopupButton)
    (interpreter : Interpreter (Reaction K C) (GalleryScene K T C X))
    (session : PanelSession K T C X) (requests : List (PanelRequest K)) :
    (session.run popup interpreter requests).loop =
      requests.foldl (popup.perform interpreter) session.loop := by
  induction requests generalizing session with
  | nil => rfl
  | cons request requests ih => exact ih (session.perform popup interpreter request)

end PanelSession

namespace PopupButton

variable {K T C X : Type} {popup : PopupButton} {panel : SavePanel}
  {built scene : GalleryScene K T C X}

/--
The button and the layer are there, and the button pops up its panels. Nobody waits for the end of a
motion that is under way elsewhere.
-/
structure Ready (popup : PopupButton) (built : GalleryScene K T C X) : Prop where
  tidy : built.Tidy
  button_mem : popup.button ∈ built.tree.kinds
  layer_mem : popup.layer ∈ built.tree.kinds
  pops_up : built.handlers.code? popup.button .pressed = some (.popUp popup)
  unheard : ∀ v, built.animator.isMoving v → built.handlers.code? v .motionEnded = none

/--
The rows of the open panel are the last ones of those that it has ever had.
-/
structure Books (popup : PopupButton) (built : GalleryScene K T C X) (panel : SavePanel)
    (session : PanelSession K T C X) : Prop where
  panel?_eq : popup.panel? session.loop.scene.store = some panel
  opened : panel.Open popup.layer built session.loop.scene
  suffix : panel.rows session.loop.scene.store <:+ session.made
  increasing : session.made.Pairwise (·.group < ·.group)
  group_lt : ∀ row ∈ session.made,
    row.group < (panel.list session.loop.scene.store).groups.upcoming
  length_eq : (panel.rows session.loop.scene.store).length =
    VideoFile.listed.length + session.clicks

/--
No panel has been opened yet.
-/
structure Closed (popup : PopupButton) (built : GalleryScene K T C X)
    (session : PanelSession K T C X) : Prop where
  panel?_eq : popup.panel? session.loop.scene.store = none
  untouched : Untouched built session.loop.scene

theorem filter_not_mem_self {made rows : List Row} (h : rows ⊆ made) :
    rows.filter (· ∉ made) = [] := by
  rw [List.filter_eq_nil_iff]
  intro row hrow
  simpa using h hrow

section Rows

variable {session : PanelSession K T C X} {clicks : Nat}

/--
A step that leaves the rows as they are.
-/
theorem Books.same_rows (h : popup.Books built panel session) {after : GalleryScene K T C X}
    (hopen : panel.Open popup.layer built after) (hstore : after.store = session.loop.scene.store) :
    popup.Books built panel {
      loop := { session.loop with scene := after }
      clicks := session.clicks
      made := popup.listMade session.loop.scene.store after.store session.made
    } := by
  have hmade : popup.listMade session.loop.scene.store after.store session.made = session.made := by
    unfold listMade
    rw [hstore, h.panel?_eq]
    dsimp only
    rw [if_pos rfl, filter_not_mem_self h.suffix.subset, List.append_nil]
  rw [hmade]
  constructor
  case panel?_eq => exact hstore ▸ h.panel?_eq
  case opened => exact hopen
  case suffix => exact hstore ▸ h.suffix
  case increasing => exact h.increasing
  case group_lt => exact hstore ▸ h.group_lt
  case length_eq => exact hstore ▸ h.length_eq

/--
A step that has put `added` rows behind some of those that there were.
-/
theorem Books.other_rows (h : popup.Books built panel session) {after : GalleryScene K T C X}
    (hopen : panel.Open popup.layer built after)
    (hpopups : after.store.popups = session.loop.scene.store.popups) {kept added : List Row}
    (hkept : kept <:+ panel.rows session.loop.scene.store)
    (hrows : panel.rows after.store = kept ++ added)
    (hadded : ∀ row ∈ added,
      (panel.list session.loop.scene.store).groups.upcoming ≤ row.group)
    (hupcoming : (panel.list session.loop.scene.store).groups.upcoming ≤
      (panel.list after.store).groups.upcoming)
    (hlength : (panel.rows after.store).length = VideoFile.listed.length + clicks) :
    popup.Books built panel {
      loop := { session.loop with scene := after }
      clicks
      made := popup.listMade session.loop.scene.store after.store session.made
    } := by
  have hpanel : popup.panel? after.store = some panel :=
    (panel?_of_popups_eq hpopups).trans h.panel?_eq
  have hincreasing := hopen.increasing
  rw [hrows, List.pairwise_append] at hincreasing
  have hmade : popup.listMade session.loop.scene.store after.store session.made =
      session.made ++ added := by
    have hnot : added.filter (· ∉ session.made) = added := by
      rw [List.filter_eq_self]
      intro row hrow
      rw [decide_eq_true_iff]
      intro hmem
      exact absurd (h.group_lt row hmem) (Nat.not_lt.mpr (hadded row hrow))
    unfold listMade
    rw [hpanel, h.panel?_eq]
    dsimp only
    rw [if_pos rfl, hrows, List.filter_append, hnot,
      filter_not_mem_self (List.Subset.trans hkept.subset h.suffix.subset), List.nil_append]
  rw [hmade]
  constructor
  case panel?_eq => exact hpanel
  case opened => exact hopen
  case suffix =>
    change panel.rows after.store <:+ _
    rcases hkept.trans h.suffix with ⟨earlier, hmade⟩
    rw [hrows, ← hmade, List.append_assoc]
    exact List.suffix_append earlier _
  case increasing =>
    rw [List.pairwise_append]
    refine ⟨h.increasing, hincreasing.2.1, ?_⟩
    intro row hrow row' hrow'
    exact Nat.lt_of_lt_of_le (h.group_lt row hrow) (hadded row' hrow')
  case group_lt =>
    intro row hrow
    cases List.mem_append.mp hrow with
    | inl hrow => exact Nat.lt_of_lt_of_le (h.group_lt row hrow) hupcoming
    | inr hrow =>
      apply hopen.group_lt
      rw [hrows]
      exact List.mem_append_right _ hrow
  case length_eq => exact hlength

end Rows

section Steps

variable [Scalar K] [Clock T]
  {client : C → Event → Program (Reaction K C) (GalleryScene K T C X) Unit} {depth : Nat}
  {session : PanelSession K T C X} {event : Event}

theorem dispatch_of_unlisted {loop : EventLoop K T (Reaction K C) (Gallery X)}
    (hopen : panel.Open popup.layer built loop.scene) (hkind : event.kind = .linkClicked)
    (hnew : ¬ built.names.Issued event.source)
    (hlink : event.source ∉ panel.links (panel.rows loop.scene.store)) :
    loop.handle (Gallery.interpreter client depth) (.input event) = loop := by
  apply Gallery.dispatch_of_none
  rw [hkind]
  exact hopen.code?_fresh hnew hlink .linkClicked

theorem Books.click (hdepth : 0 < depth) (h : popup.Books built panel session)
    (hkind : event.kind = .linkClicked) (hnew : ¬ built.names.Issued event.source) :
    popup.Books built panel
      (session.perform popup (Gallery.interpreter client depth) (.handle (.input event))) := by
  have hnot : event.kind ≠ .pressed := by
    rw [hkind]
    exact nofun
  unfold PanelSession.perform perform countClicks
  dsimp only
  rw [if_neg hnot, h.panel?_eq]
  dsimp only
  by_cases hlink : event.source ∈ panel.links (panel.rows session.loop.scene.store)
  · have hcode : session.loop.scene.handlers.code? event.source event.kind =
        some (.followLink panel) := by
      rw [hkind]
      exact h.opened.code?_link hlink
    have hloop : session.loop.handle (Gallery.interpreter client depth) (.input event) = _ :=
      Gallery.dispatch_of_some hdepth hcode rfl
    rw [hloop]
    split
    · next hsaveAll =>
      rw [hsaveAll]
      apply Scene.settle_of_ends fun after => popup.Books built panel
        ⟨⟨after, _⟩, 0, popup.listMade session.loop.scene.store after.store session.made⟩
      apply Succeeds.ends
      apply (SavePanel.followLink_saveAll_ends h.opened).mono
      intro _ after ⟨hafter, _⟩
      exact h.other_rows hafter.opened hafter.popups_eq List.nil_suffix (List.nil_append _).symm
        hafter.group_le hafter.upcoming_le hafter.length_eq
    · next hsaveAll =>
      have hadds : event.source ∈
          panel.title :: (panel.rows session.loop.scene.store).map Row.link :=
        (SavePanel.mem_links_iff.mp hlink).resolve_left hsaveAll
      rw [if_pos hadds]
      rcases h.opened.viewport with ⟨offset, hscrolls⟩
      apply Scene.settle_of_ends fun after => popup.Books built panel
        ⟨⟨after, _⟩, _, popup.listMade session.loop.scene.store after.store session.made⟩
      apply Succeeds.ends
      apply (SavePanel.followLink_ends h.opened hadds hscrolls).mono
      intro _ after ⟨hafter, _⟩
      rcases hafter.rows_eq with ⟨added, hrows, hlength, hgroups⟩
      apply h.other_rows hafter.opened hafter.popups_eq List.suffix_rfl hrows hgroups
        hafter.upcoming_le
      rw [hrows, List.length_append, hlength, h.length_eq, Nat.add_assoc]
  · have hneither : event.source ≠ panel.saveAll ∧ event.source ∉
        panel.title :: (panel.rows session.loop.scene.store).map Row.link :=
      not_or.mp (mt SavePanel.mem_links_iff.mpr hlink)
    rw [dispatch_of_unlisted h.opened hkind hnew hlink, if_neg hneither.1, if_neg hneither.2]
    exact h.same_rows h.opened rfl

theorem Books.frame (hready : popup.Ready built) (h : popup.Books built panel session)
    (now : Instant) : popup.Books built panel
      (session.perform popup (Gallery.interpreter client depth) (.handle (.frame now))) := by
  have hunheard (v : ViewId) (hv : session.loop.scene.animator.isMoving v) :
      session.loop.scene.handlers.code? v .motionEnded = none := by
    rw [h.opened.code?_eq, if_neg fun hlink => nomatch hlink.1]
    exact hready.unheard v (h.opened.moving hv)
  have hloop : session.loop.handle (Gallery.interpreter client depth) (.frame now) = _ :=
    Gallery.frame_of_unheard hunheard
  unfold PanelSession.perform perform
  dsimp only
  rw [hloop]
  exact h.same_rows (h.opened.frame now) rfl

theorem Books.scroll (h : popup.Books built panel session) (target : K) :
    popup.Books built panel
      (session.perform popup (Gallery.interpreter client depth) (.scroll target)) := by
  rcases h.opened.viewport with ⟨offset, hscrolls⟩
  unfold PanelSession.perform perform
  dsimp only
  rw [h.panel?_eq]
  apply Scene.settle_of_ends fun after => popup.Books built panel
    ⟨⟨after, _⟩, _, popup.listMade session.loop.scene.store after.store session.made⟩
  apply Scene.onTree_ends
  apply Succeeds.ends
  apply (SavePanel.scrollTo_ends (h.opened.standing hscrolls) target).mono
  intro _ tree hscrolled
  exact h.same_rows (h.opened.arranged hscrolled.arranged hscrolled.scrolls) rfl

/--
Either there is no panel yet, or there is one that keeps its books.
-/
def Kept (popup : PopupButton) (built : GalleryScene K T C X) (session : PanelSession K T C X) :
    Prop :=
  popup.Closed built session ∨ ∃ panel, popup.Books built panel session

variable (client)

theorem Kept.press (hdepth : 0 < depth) (hready : popup.Ready built)
    (h : popup.Kept built session) (hkind : event.kind = .pressed)
    (hsource : event.source = popup.button) :
    ∃ panel, popup.Books built panel
      (session.perform popup (Gallery.interpreter client depth) (.handle (.input event))) := by
  have hdismissed : Untouched built (popup.dismiss session.loop.scene) ∧
      (popup.dismiss session.loop.scene).names = session.loop.scene.names := by
    rcases h with hclosed | ⟨panel, hbooks⟩
    · rw [dismiss_of_none hclosed.panel?_eq]
      exact ⟨hclosed.untouched, rfl⟩
    · exact dismiss_untouched hbooks.opened hbooks.panel?_eq
  have hcode : session.loop.scene.handlers.code? event.source event.kind = some (.popUp popup) := by
    rw [hkind, hsource, ← hready.pops_up]
    rcases h with hclosed | ⟨panel, hbooks⟩
    · exact hclosed.untouched.code?_eq _ _
    · rw [hbooks.opened.code?_eq, if_neg fun hlink => nomatch hlink.1]
  have hissued (old : SavePanel) (hold : popup.panel? session.loop.scene.store = some old) :
      session.loop.scene.names.Issued old.outer := by
    rcases h with hclosed | ⟨panel, hbooks⟩
    · rw [hclosed.panel?_eq] at hold
      contradiction
    · rw [hbooks.panel?_eq] at hold
      injection hold with hold
      rw [← hold]
      exact hbooks.opened.issued (by simp [SavePanel.views])
  have hloop : session.loop.handle (Gallery.interpreter client depth) (.input event) = _ :=
    Gallery.dispatch_of_some hdepth hcode rfl
  unfold PanelSession.perform perform countClicks
  dsimp only
  rw [if_pos hkind, hloop]
  apply Scene.settle_of_ends fun after => ∃ panel, popup.Books built panel
    ⟨⟨after, _⟩, 0, popup.listMade session.loop.scene.store after.store session.made⟩
  apply Succeeds.ends
  apply (popUp_ends hdismissed.1.tidy ((hdismissed.1.mem_kinds _).mpr hready.button_mem)
    ((hdismissed.1.mem_kinds _).mpr hready.layer_mem)).mono
  intro panel after hopened
  have hother : popup.panel? after.store ≠ popup.panel? session.loop.scene.store := by
    intro hsame
    rw [hopened.panel?_eq] at hsame
    apply hopened.opened.fresh (v := panel.outer) (by simp [SavePanel.views])
    rw [hdismissed.2]
    exact hissued panel hsame.symm
  have hmade : popup.listMade session.loop.scene.store after.store session.made =
      panel.rows after.store := by
    unfold listMade
    rw [if_neg hother, hopened.panel?_eq]
    simp
  have hopen := hdismissed.1.opened hopened.opened
  rw [hmade]
  exact ⟨panel, hopened.panel?_eq, hopen, List.suffix_rfl, hopen.increasing, hopen.group_lt,
    hopened.length_eq⟩

theorem Closed.idle (hready : popup.Ready built) (h : popup.Closed built session)
    {request : PanelRequest K} (hrequest : popup.Hears built request) (hopens : ¬ request.opens) :
    popup.Closed built
      (session.perform popup (Gallery.interpreter client depth) request) := by
  cases request with
  | handle message =>
    cases message with
    | input event =>
      have hclick := hrequest.resolve_left fun hpress => hopens (decide_eq_true hpress.1)
      have hcode : session.loop.scene.handlers.code? event.source event.kind = none := by
        rw [h.untouched.code?_eq]
        exact hready.tidy.code?_eq_none hclick.2 _
      have hloop : session.loop.handle (Gallery.interpreter client depth) (.input event) =
          session.loop := Gallery.dispatch_of_none hcode
      unfold PanelSession.perform perform
      dsimp only
      rw [hloop]
      exact ⟨h.panel?_eq, h.untouched⟩
    | frame now =>
      have hunheard (v : ViewId) (hv : session.loop.scene.animator.isMoving v) :
          session.loop.scene.handlers.code? v .motionEnded = none := by
        rw [h.untouched.code?_eq]
        exact hready.unheard v (h.untouched.moving hv)
      have hloop : session.loop.handle (Gallery.interpreter client depth) (.frame now) = _ :=
        Gallery.frame_of_unheard hunheard
      unfold PanelSession.perform perform
      dsimp only
      rw [hloop]
      exact ⟨h.panel?_eq, h.untouched.frame now⟩
    | quit => contradiction
  | scroll target =>
    unfold PanelSession.perform perform
    dsimp only
    rw [h.panel?_eq]
    exact ⟨h.panel?_eq, h.untouched⟩

theorem Books.step (hdepth : 0 < depth) (hready : popup.Ready built)
    (h : popup.Books built panel session) {request : PanelRequest K}
    (hrequest : popup.Hears built request) : ∃ panel, popup.Books built panel
      (session.perform popup (Gallery.interpreter client depth) request) := by
  cases request with
  | handle message =>
    cases message with
    | input event =>
      rcases hrequest with ⟨hkind, hsource⟩ | ⟨hkind, hnew⟩
      · exact Kept.press client hdepth hready (Or.inr ⟨panel, h⟩) hkind hsource
      · exact ⟨panel, h.click hdepth hkind hnew⟩
    | frame now => exact ⟨panel, h.frame hready now⟩
    | quit => contradiction
  | scroll target => exact ⟨panel, h.scroll target⟩

theorem Books.run (hdepth : 0 < depth) (hready : popup.Ready built)
    (h : popup.Books built panel session) {requests : List (PanelRequest K)}
    (hrequests : ∀ request ∈ requests, popup.Hears built request) : ∃ panel,
      popup.Books built panel (session.run popup (Gallery.interpreter client depth) requests) := by
  induction requests generalizing session panel with
  | nil => exact ⟨panel, h⟩
  | cons request requests ih =>
    obtain ⟨next, hnext⟩ :=
      h.step client hdepth hready (hrequests request List.mem_cons_self)
    exact ih hnext fun r hr => hrequests r (List.mem_cons_of_mem request hr)

theorem Closed.run (hdepth : 0 < depth) (hready : popup.Ready built)
    (h : popup.Closed built session) {requests : List (PanelRequest K)}
    (hrequests : ∀ request ∈ requests, popup.Hears built request) :
    let last := session.run popup (Gallery.interpreter client depth) requests
    if requests.any PanelRequest.opens then ∃ panel, popup.Books built panel last
    else popup.Closed built last := by
  induction requests generalizing session with
  | nil => exact h
  | cons request requests ih =>
    have hfirst := hrequests request List.mem_cons_self
    have hrest (r) (hr : r ∈ requests) := hrequests r (List.mem_cons_of_mem request hr)
    by_cases hopens : request.opens
    · rw [List.any_cons, hopens, Bool.true_or, if_pos rfl]
      match request, hopens with
      | .handle (.input event), hopens =>
        have hkind : event.kind = .pressed := of_decide_eq_true hopens
        have hsource := (hfirst.resolve_right fun hclick => by
          rw [hkind] at hclick
          exact nomatch hclick.1).2
        obtain ⟨panel, hpanel⟩ :=
          Kept.press client hdepth hready (Or.inl h) hkind hsource
        exact hpanel.run client hdepth hready hrest
    · rw [List.any_cons, Bool.eq_false_iff.mpr hopens, Bool.false_or]
      exact ih (h.idle client hready hfirst hopens) hrest

omit [Clock T] in
theorem ready_of_build {scene : GalleryScene K T C X} (htidy : scene.Tidy)
    {container layer : ViewId} (hlayer : layer ∈ scene.tree.kinds)
    (hbuild : build container layer scene = .ok popup built)
    (hunheard : ∀ v, built.animator.isMoving v → built.handlers.find? v .motionEnded = none) :
    popup.layer = layer ∧ popup.Ready built := by
  obtain ⟨hbuilt, rfl, hbutton, hmem, hcode⟩ := (build_ends htidy container layer).of_eq hbuild
  refine ⟨rfl, hbuilt, hbutton, hmem _ hlayer, hcode, ?_⟩
  intro v hv
  unfold HandlerTable.code?
  rw [hunheard v hv]
  rfl

theorem panel_keeps_books (hdepth : 0 < depth) {scene : GalleryScene K T C X}
    (htidy : scene.Tidy) {container layer : ViewId} (hlayer : layer ∈ scene.tree.kinds)
    (hbuild : build container layer scene = .ok popup built)
    (hempty : built.tree.subviews layer = []) (hpanel : popup.panel? built.store = none)
    (hunheard : ∀ v, built.animator.isMoving v → built.handlers.find? v .motionEnded = none)
    {requests : List (PanelRequest K)}
    (hrequests : ∀ request ∈ requests, popup.Hears built request) :
    let interpreter := Gallery.interpreter client depth
    let session := (PanelSession.start built).run popup interpreter requests
    let scene := session.loop.scene
    session.loop = requests.foldl (popup.perform interpreter) ⟨built, false⟩ ∧
      (popup.panel? scene.store).isSome = requests.any PanelRequest.opens ∧
      ∀ panel, popup.panel? scene.store = some panel →
        let rows := panel.rows scene.store
        scene.tree.subviews layer = [panel.outer] ∧
          scene.tree.subviews panel.content = rows.flatMap Row.cells ∧
          (∀ row ∈ rows, ∀ cell ∈ row.cells, scene.tree.group? cell = some row.group) ∧
          rows.Pairwise (·.group < ·.group) ∧ session.made.Pairwise (·.group < ·.group) ∧
          rows <:+ session.made ∧ rows.length = 8 + session.clicks ∧
          (∀ row ∈ rows, scene.handlers.code? row.link .linkClicked = some (.followLink panel)) ∧
          (∀ v, scene.tree.contains v ↔ v ∈ panel.views rows ∨ built.tree.contains v) ∧
          (∀ v kind, scene.handlers.code? v kind =
            if kind = .linkClicked ∧ v ∈ panel.links rows then some (.followLink panel)
            else built.handlers.code? v kind) ∧
          (∀ v, scene.animator.isMoving v → built.animator.isMoving v) ∧
          ∀ event, event.kind = .linkClicked → ¬ built.names.Issued event.source →
            event.source ∉ panel.links rows →
              session.loop.handle interpreter (.input event) = session.loop := by
  intro interpreter session scene
  obtain ⟨rfl, hready⟩ := ready_of_build htidy hlayer hbuild hunheard
  have hclosed : popup.Closed built (.start built) := ⟨hpanel, hready.tidy.untouched⟩
  have hrun := hclosed.run client hdepth hready hrequests
  refine ⟨PanelSession.run_loop popup interpreter _ requests, ?_, ?_⟩
  · split at hrun
    · next hopens =>
      rcases hrun with ⟨panel, hbooks⟩
      rw [hopens]
      exact Option.isSome_of_eq_some hbooks.panel?_eq
    · next hopens =>
      rw [Bool.eq_false_iff.mpr hopens]
      exact Option.isSome_eq_false_iff.mpr (Option.isNone_iff_eq_none.mpr hrun.panel?_eq)
  · intro panel hsome rows
    have hbooks : popup.Books built panel session := by
      split at hrun
      · next hopens =>
        rcases hrun with ⟨current, hbooks⟩
        have hsame := hbooks.panel?_eq
        rw [hsome] at hsame
        injection hsame with hsame
        exact hsame ▸ hbooks
      · next hopens =>
        have hnone := hrun.panel?_eq
        rw [hsome] at hnone
        contradiction
    have hopen := hbooks.opened
    refine ⟨?_, hopen.subviews_content, ?_, hopen.increasing, hbooks.increasing, hbooks.suffix,
      hbooks.length_eq, ?_, hopen.mem_kinds, hopen.code?_eq, fun v => hopen.moving, ?_⟩
    · rw [hopen.subviews_layer, hempty, List.nil_append]
    · exact fun row hrow cell hcell => (hopen.shown row hrow).group hcell
    · exact fun row hrow => hopen.code?_link (SavePanel.link_mem_links hrow)
    · exact fun event hkind hnew hlink => dispatch_of_unlisted hopen hkind hnew hlink

end Steps

theorem panel_keeps_books_after_click :
    let scene : GalleryScene Rat ManualClock Empty Unit :=
      (Scene.new .counted .atEpoch {} (.new ())).run [.onTree (.insert ⟨0⟩ .container)]
    let popup : PopupButton := ⟨⟨2⟩, ⟨1⟩⟩
    let built := Scene.settle (build ⟨0⟩ ⟨1⟩) scene
    let client (code : Empty) (_ : Event) :
        Program (Reaction Rat Empty) (GalleryScene Rat ManualClock Empty Unit) Unit := nomatch code
    let interpreter := Gallery.interpreter client 1
    let click (link : ViewId) : PanelRequest Rat :=
      .handle (.input { source := link, kind := .linkClicked })
    let requests : List (PanelRequest Rat) := [
      .handle (.input { source := ⟨2⟩, kind := .pressed }), .scroll 50, click ⟨5⟩]
    let session := (PanelSession.start built).run popup interpreter requests
    let scene := session.loop.scene
    ∃ panel, popup.panel? scene.store = some panel ∧
      scene.tree.subviews ⟨1⟩ = [panel.outer] ∧ (panel.rows scene.store).length = 9 ∧
      (panel.rows scene.store).Pairwise (·.group < ·.group) := by
  intro scene popup built client interpreter click requests session last
  have htidy : scene.Tidy :=
    Scene.tidy_of_only_tree .counted ManualClock.atEpoch {} (Gallery.new ())
      [.insert ⟨0⟩ .container]
  have hbuild : build ⟨0⟩ ⟨1⟩ scene = .ok popup built := Scene.eq_ok_of_run' (by decide +kernel)
  have hidle : built.animator.motions = ∅ := by
    rw [← Std.ExtTreeMap.isEmpty_iff]
    decide +kernel
  have hrequests : ∀ request ∈ requests, popup.Hears built request := by decide +kernel
  have h := panel_keeps_books client Nat.one_pos htidy (by decide +kernel) hbuild
    (by decide +kernel) (by decide +kernel) (by simp [Animator.isMoving, hidle]) hrequests
  rcases h with ⟨_, hopen, hpanel⟩
  obtain ⟨panel, hsome⟩ := Option.isSome_iff_exists.mp hopen
  have hclicks : session.clicks = 1 := by decide +kernel
  rcases hpanel panel hsome with ⟨hlayer, _, _, hincreasing, _, _, hlength, _⟩
  unfold session interpreter at hclicks
  rw [hclicks] at hlength
  unfold last session interpreter
  exact ⟨panel, hsome, hlayer, hlength, hincreasing⟩

end PopupButton

end ViewMotion
