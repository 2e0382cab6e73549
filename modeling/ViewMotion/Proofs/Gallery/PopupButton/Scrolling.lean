import Mathlib.Tactic.Linarith
import Mathlib.Tactic.NormNum
import ViewMotion.Clock.Manual
import ViewMotion.Proofs.ExtendedScalar
import ViewMotion.Proofs.Gallery.PopupButton.History

/-!
This module contains where the content of a save panel is while the panel is scrolled and its links
are clicked, if bounds are computed exactly.
-/

namespace ViewMotion

open Extended

namespace SavePanel

variable {panel : SavePanel} {rows : List Row} {tree : ViewTree Extended} {limit offset : Rat}

section Clamping

theorem clamped_of_le (h : 0 ≤ offset) (hle : offset ≤ limit) :
    clamped (finite limit) (finite offset) = finite offset := by
  unfold clamped
  rw [ofNat_eq, Nat.cast_zero, max_finite, max_eq_right h, min_finite, min_eq_left hle]

theorem exists_clamped (h : 0 ≤ limit) (target : Extended) :
    ∃ offset, clamped (finite limit) target = finite offset ∧ 0 ≤ offset ∧ offset ≤ limit := by
  unfold clamped
  rcases max_zero_cases target with ⟨y, hy, hpos⟩ | hinfinite
  · rw [hy, min_finite]
    exact ⟨_, rfl, le_min hpos h, min_le_right y limit⟩
  · rw [hinfinite, min_infinity]
    exact ⟨limit, rfl, h, le_refl limit⟩

theorem clamped_zero (x : Extended) : clamped (Scalar.max 0 x) 0 = finite 0 := by
  rcases max_zero_cases x with ⟨y, hy, hpos⟩ | hinfinite
  · rw [hy]
    exact clamped_of_le (le_refl 0) hpos
  · rw [hinfinite]
    rfl

end Clamping

section Heights

theorem lineSize_height (text : String) :
    (ViewKind.lineSize text 0 : Size Extended).height = finite 16 := by
  unfold ViewKind.lineSize ViewKind.lineHeight
  simp only [ofNat_eq, finite_add, finite_mul]
  norm_num

theorem naturalSize_of_kind {v : ViewId} {kind : ViewKind Extended} (h : tree.kind? v = some kind) :
    tree.naturalSize v = kind.naturalSize := by
  unfold ViewTree.naturalSize
  rw [h]
  rfl

theorem cell_height {row : Row} (h : row.Shown tree) {cell : ViewId} (hcell : cell ∈ row.cells) :
    (tree.naturalSize cell).height = finite 16 := by
  simp only [Row.cells, List.mem_cons, List.not_mem_nil, or_false] at hcell
  rcases hcell with rfl | rfl | rfl | rfl
  · rw [naturalSize_of_kind h.icon]
    rfl
  · rcases h.name with ⟨text, hname⟩
    rw [naturalSize_of_kind hname]
    exact lineSize_height text
  · rcases h.size with ⟨text, hsize⟩
    rw [naturalSize_of_kind hsize]
    exact lineSize_height text
  · rw [naturalSize_of_kind h.link]
    exact lineSize_height _

theorem foldl_height_eq {cells : List ViewId}
    (h : ∀ v ∈ cells, (tree.naturalSize v).height = finite 16) :
    cells.foldl (fun height cell => Scalar.max height (tree.naturalSize cell).height)
      (finite 16) = finite 16 := by
  induction cells with
  | nil => rfl
  | cons v cells ih =>
    rw [List.foldl_cons, h v List.mem_cons_self, max_finite, max_self]
    exact ih fun w hw => h w (List.mem_cons_of_mem v hw)

theorem rowHeight_eq (h : ∀ row ∈ rows, row.Shown tree) :
    rowHeight tree rows = finite (if rows = [] then 0 else 16) := by
  cases rows with
  | nil => rfl
  | cons row rows =>
    have hcells (v) (hv : v ∈ (row :: rows).flatMap Row.cells) :
        (tree.naturalSize v).height = finite 16 := by
      rcases List.mem_flatMap.mp hv with ⟨r, hr, hcell⟩
      exact cell_height (h r hr) hcell
    rw [List.flatMap_cons] at hcells
    have hfirst : Scalar.max 0 (tree.naturalSize row.icon).height = finite 16 := by
      rw [hcells row.icon List.mem_cons_self]
      rfl
    rw [if_neg (List.cons_ne_nil row rows)]
    unfold rowHeight
    rw [List.flatMap_cons]
    unfold Row.cells
    rw [List.cons_append, List.foldl_cons, hfirst]
    exact foldl_height_eq fun w hw => hcells w (List.mem_cons_of_mem row.icon hw)

theorem gridSize_height (h : ∀ row ∈ rows, row.Shown tree) :
    (gridSize tree rows).height = finite (3 + 19 * rows.length) := by
  unfold gridSize lineMargin
  dsimp only
  rw [rowHeight_eq h, ofNat_eq, natCast_eq, finite_add, finite_mul, finite_add]
  apply congrArg finite
  cases rows with
  | nil => norm_num
  | cons row rows =>
    rw [if_neg (List.cons_ne_nil row rows), mul_comm]
    norm_num

end Heights

section Excess

/--
How much of the rows and the bar there is beyond the greatest height of a panel.
-/
def excess (rows : List Row) : Rat := max 0 (3 + 19 * rows.length + 22 - 420)

theorem excess_nonneg (rows : List Row) : 0 ≤ excess rows := le_max_left _ _

theorem excess_le_append (rows added : List Row) : excess rows ≤ excess (rows ++ added) := by
  unfold excess
  apply max_le_max (le_refl 0)
  rw [List.length_append]
  push_cast
  linarith [Nat.cast_nonneg (α := Rat) added.length]

end Excess

section Open

variable {T C X : Type} {layer : ViewId} {base scene : GalleryScene Extended T C X}
  (h : panel.Open layer base scene)

include h

theorem Open.barSize_height : (panel.barSize scene.tree).height = finite 22 := by
  unfold barSize lineMargin
  rw [naturalSize_of_kind h.title, naturalSize_of_kind h.saveAll]
  dsimp only [ViewKind.naturalSize]
  rw [lineSize_height, lineSize_height, max_finite, ofNat_eq, ofNat_eq, finite_mul, finite_add]
  norm_num

theorem Open.naturalSize_height : (panel.naturalSize scene.tree (panel.rows scene.store)).height =
    finite (min (420 : Rat) (3 + 19 * (panel.rows scene.store).length + 22) + 2) := by
  unfold naturalSize heightLimit border
  simp only [gridSize_height h.shown, h.barSize_height, ofNat_eq, finite_add, finite_mul,
    finite_lt_iff, Nat.cast_ofNat]
  split
  · next hlt =>
    rw [min_eq_left (le_of_lt hlt), finite_add]
    norm_num
  · next hlt =>
    rw [min_eq_right (not_lt.mp hlt), finite_add]
    norm_num

theorem Open.limit_eq :
    Scalar.max 0 ((gridSize scene.tree (panel.rows scene.store)).height +
        (panel.barSize scene.tree).height - heightLimit) =
      finite (excess (panel.rows scene.store)) := by
  unfold heightLimit excess
  rw [gridSize_height h.shown, h.barSize_height, finite_add, ofNat_eq, ofNat_eq, finite_sub,
    max_finite]
  norm_num

theorem Open.room_eq :
    panel.room scene.tree (panel.rows scene.store) = finite (excess (panel.rows scene.store)) := by
  unfold room border excess
  simp only [h.naturalSize_height, gridSize_height h.shown, h.barSize_height, ofNat_eq, finite_mul,
    finite_sub, max_finite, Nat.cast_ofNat, Nat.cast_zero, Nat.cast_one]
  apply congrArg finite
  have hcount : (0 : Rat) ≤ (panel.rows scene.store).length := Nat.cast_nonneg _
  generalize ((panel.rows scene.store).length : Rat) = count at hcount ⊢
  rcases le_total (420 : Rat) (3 + 19 * count + 22) with hle | hle
  · have hviewport : max 0 ((420 : Rat) + 2 - 22 - 1 * 2) = 398 := by norm_num
    rw [min_eq_left hle, hviewport]
    apply congrArg (max 0)
    linarith
  · have hviewport : max 0 (3 + 19 * count + 22 + 2 - 22 - 1 * 2) = 3 + 19 * count := by
      rw [max_eq_right] <;> linarith
    rw [min_eq_right hle, hviewport, sub_self, max_self, max_eq_left]
    linarith

end Open

end SavePanel

namespace PopupButton

variable {T C X : Type} {popup : PopupButton} {panel : SavePanel}
  {base scene : GalleryScene Extended T C X}

/--
Links that have come after `base` are clicked, or the panel is scrolled.
-/
def Follows {K : Type} (base : GalleryScene K T C X) : PanelRequest K → Prop
  | .handle (.input event) => event.kind = .linkClicked ∧ ¬ base.names.Issued event.source
  | .handle _ => False
  | .scroll _ => True

instance {K : Type} (base : GalleryScene K T C X) : DecidablePred (Follows base)
  | .handle (.input event) =>
    inferInstanceAs (Decidable (event.kind = .linkClicked ∧ ¬ base.names.Issued event.source))
  | .handle (.frame _) | .handle .quit => .isFalse id
  | .scroll _ => .isTrue trivial

/--
The open panel has its natural size, and shows its content from `offset` on.
-/
structure Shows (popup : PopupButton) (base : GalleryScene Extended T C X) (panel : SavePanel)
    (offset : Rat) (scene : GalleryScene Extended T C X) : Prop where
  panel?_eq : popup.panel? scene.store = some panel
  opened : panel.Open popup.layer base scene
  laid : panel.Laid (panel.rows scene.store) (finite offset) scene.tree
  nonneg : 0 ≤ offset
  le : offset ≤ SavePanel.excess (panel.rows scene.store)

variable {offset : Rat}

theorem Shows.scrolled_eq (h : popup.Shows base panel offset scene) :
    panel.scrolled scene.tree = finite offset := by
  unfold SavePanel.scrolled
  rw [h.laid.scrolls]

theorem Shows.scrollLimit_eq (h : popup.Shows base panel offset scene) :
    panel.scrollLimit scene.tree = finite (SavePanel.excess (panel.rows scene.store)) := by
  rw [h.laid.toSized.scrollLimit_eq, h.opened.room_eq]

variable [Clock T]
  {client : C → Event → Program (Reaction Extended C) (GalleryScene Extended T C X) Unit}
  {depth : Nat} {loop : EventLoop Extended T (Reaction Extended C) (Gallery X)} {event : Event}

omit [Clock T] in
theorem Opened.shows (h : popup.Opened base panel scene) : popup.Shows base panel 0 scene := by
  rcases h.laid with ⟨x, hlaid⟩
  have hexcess := SavePanel.excess_nonneg (panel.rows scene.store)
  rw [SavePanel.clamped_zero, h.opened.room_eq,
    SavePanel.clamped_of_le (le_refl 0) hexcess] at hlaid
  exact ⟨h.panel?_eq, h.opened, hlaid, le_refl 0, hexcess⟩

theorem Shows.click (hdepth : 0 < depth) (h : popup.Shows base panel offset loop.scene)
    (hkind : event.kind = .linkClicked) (hnew : ¬ base.names.Issued event.source) :
    popup.Shows base panel (if event.source = panel.saveAll then 0 else offset)
      (loop.handle (Gallery.interpreter client depth) (.input event)).scene := by
  by_cases hlink : event.source ∈ panel.links (panel.rows loop.scene.store)
  · have hcode : loop.scene.handlers.code? event.source event.kind = some (.followLink panel) := by
      rw [hkind]
      exact h.opened.code?_link hlink
    have hloop : loop.handle (Gallery.interpreter client depth) (.input event) = _ :=
      Gallery.dispatch_of_some hdepth hcode rfl
    rw [hloop]
    apply Scene.settle_of_ends (popup.Shows base panel _)
    apply Succeeds.ends
    split
    · next hsaveAll =>
      rw [hsaveAll]
      apply (SavePanel.followLink_saveAll_ends h.opened).mono
      intro _ after ⟨hafter, x, hlaid⟩
      have hexcess := SavePanel.excess_nonneg (panel.rows after.store)
      rw [SavePanel.clamped_zero, hafter.opened.room_eq,
        SavePanel.clamped_of_le (le_refl 0) hexcess] at hlaid
      exact ⟨(panel?_of_popups_eq hafter.popups_eq).trans h.panel?_eq, hafter.opened, hlaid,
        le_refl 0, hexcess⟩
    · next hsaveAll =>
      have hadds : event.source ∈ panel.title :: (panel.rows loop.scene.store).map Row.link :=
        (SavePanel.mem_links_iff.mp hlink).resolve_left hsaveAll
      apply (SavePanel.followLink_ends h.opened hadds h.laid.scrolls).mono
      intro _ after ⟨hafter, hlaid⟩
      rcases hafter.rows_eq with ⟨added, hrows, -⟩
      have hle : offset ≤ SavePanel.excess (panel.rows after.store) := by
        rw [hrows]
        exact h.le.trans (SavePanel.excess_le_append _ added)
      rw [hafter.opened.room_eq, SavePanel.clamped_of_le h.nonneg hle] at hlaid
      exact ⟨(panel?_of_popups_eq hafter.popups_eq).trans h.panel?_eq, hafter.opened, hlaid,
        h.nonneg, hle⟩
  · have hsaveAll : event.source ≠ panel.saveAll :=
      fun heq => hlink (SavePanel.mem_links_iff.mpr (Or.inl heq))
    rw [dispatch_of_unlisted h.opened hkind hnew hlink, if_neg hsaveAll]
    exact h

theorem Shows.scroll (h : popup.Shows base panel offset loop.scene) (target : Extended) :
    ∃ shown, popup.Shows base panel shown
      (popup.perform (Gallery.interpreter client depth) loop (.scroll target)).scene := by
  obtain ⟨shown, hclamped, hnonneg, hle⟩ :=
    SavePanel.exists_clamped (SavePanel.excess_nonneg (panel.rows loop.scene.store)) target
  refine ⟨shown, ?_⟩
  unfold perform
  rw [h.panel?_eq]
  apply Scene.settle_of_ends (popup.Shows base panel shown)
  apply Scene.onTree_ends
  apply Succeeds.ends
  apply (h.laid.toSized.scrollTo_ends h.laid.toStanding target).mono
  intro _ tree ⟨harranged, hlaid⟩
  rw [h.opened.room_eq, hclamped] at hlaid
  exact ⟨h.panel?_eq, h.opened.arranged harranged hlaid.scrolls, hlaid, hnonneg, hle⟩

variable (client)

theorem Shows.step (hdepth : 0 < depth) (h : popup.Shows base panel offset loop.scene)
    {request : PanelRequest Extended} (hrequest : Follows base request) :
    ∃ shown, popup.Shows base panel shown
      (popup.perform (Gallery.interpreter client depth) loop request).scene := by
  cases request with
  | handle message =>
    cases message with
    | input event => exact ⟨_, h.click hdepth hrequest.1 hrequest.2⟩
    | frame now => contradiction
    | quit => contradiction
  | scroll target => exact h.scroll target

theorem Shows.run (hdepth : 0 < depth) (h : popup.Shows base panel offset loop.scene)
    {requests : List (PanelRequest Extended)}
    (hrequests : ∀ request ∈ requests, Follows base request) :
    ∃ shown, popup.Shows base panel shown
      (requests.foldl (popup.perform (Gallery.interpreter client depth)) loop).scene := by
  induction requests generalizing loop offset with
  | nil => exact ⟨offset, h⟩
  | cons request requests ih =>
    obtain ⟨next, hnext⟩ :=
      h.step client hdepth (hrequests request List.mem_cons_self)
    exact ih hnext fun r hr => hrequests r (List.mem_cons_of_mem request hr)

theorem shows_of_popUp (htidy : scene.Tidy) {opened : GalleryScene Extended T C X}
    (hpopUp : popup.popUp scene = .ok panel opened) :
    (popup.dismiss scene).names = scene.names ∧
      popup.Shows (popup.dismiss scene) panel 0 opened := by
  obtain ⟨hdismissed, hnames⟩ := dismiss_tidy htidy popup
  obtain ⟨hbutton, hlayer⟩ := mem_of_popUp hpopUp
  have hmem := (hdismissed.sound.wellFormed.mem_bounds popup.button).mp hbutton
  exact ⟨hnames, (Ends.of_eq (popUp_ends hdismissed hmem hlayer) hpopUp).shows⟩

theorem scroll_position_kept (hdepth : 0 < depth) (htidy : scene.Tidy)
    {opened : GalleryScene Extended T C X} (hpopUp : popup.popUp scene = .ok panel opened)
    {requests : List (PanelRequest Extended)}
    (hrequests : ∀ request ∈ requests, Follows scene request) :
    let interpreter := Gallery.interpreter client depth
    let loop := requests.foldl (popup.perform interpreter) ⟨opened, false⟩
    let rows := panel.rows loop.scene.store
    let tree := loop.scene.tree
    popup.panel? loop.scene.store = some panel ∧
      (∀ link ∈ panel.links rows, ¬ scene.names.Issued link) ∧
      0 ≤ panel.scrolled tree ∧ panel.scrolled tree ≤ panel.scrollLimit tree ∧
      (∃ outer bar content, tree.bounds? panel.outer = some outer ∧
        tree.bounds? panel.bar = some bar ∧ tree.bounds? panel.content = some content ∧
        outer.size = panel.naturalSize tree rows ∧ content.origin = ⟨0, -panel.scrolled tree⟩ ∧
        panel.scrollLimit tree =
          Scalar.max 0 (content.size.height + bar.size.height - SavePanel.heightLimit)) ∧
      ∀ event : Event, event.kind = .linkClicked → ¬ scene.names.Issued event.source →
        panel.scrolled (loop.handle interpreter (.input event)).scene.tree =
          if event.source = panel.saveAll then 0 else panel.scrolled tree := by
  intro interpreter loop rows tree
  obtain ⟨hnames, hopened⟩ := shows_of_popUp htidy hpopUp
  have hfollows (request) (hrequest : request ∈ requests) :
      Follows (popup.dismiss scene) request := by
    have hfollows := hrequests request hrequest
    unfold Follows at hfollows ⊢
    rw [hnames]
    exact hfollows
  obtain ⟨offset, hshows⟩ : ∃ offset, popup.Shows (popup.dismiss scene) panel offset loop.scene :=
    Shows.run client hdepth hopened hfollows
  rw [← hnames]
  refine ⟨hshows.panel?_eq, ?_, ?_, ?_, ?_, ?_⟩
  · exact fun link hlink => hshows.opened.fresh (SavePanel.views_of_links hlink)
  · rw [hshows.scrolled_eq]
    exact finite_le_iff.mpr hshows.nonneg
  · rw [hshows.scrolled_eq, hshows.scrollLimit_eq]
    exact finite_le_iff.mpr hshows.le
  · rcases hshows.laid.outer with ⟨origin, houter⟩
    rcases hshows.laid.bar with ⟨bar, hbar, hheight⟩
    refine ⟨_, bar, _, houter, hbar, hshows.laid.shifted, rfl, ?_, ?_⟩
    · rw [hshows.scrolled_eq]
    · rw [hshows.scrollLimit_eq, hheight, hshows.opened.limit_eq]
  · intro event hkind hnew
    rw [(hshows.click hdepth hkind hnew).scrolled_eq, hshows.scrolled_eq]
    split <;> rfl

theorem scroll_position_kept_until_saveAll :
    let scene : GalleryScene Extended ManualClock Empty Unit :=
      (Scene.new .counted .atEpoch {} (.new ())).run [.onTree (.insert ⟨0⟩ .container)]
    let popup : PopupButton := ⟨⟨2⟩, ⟨1⟩⟩
    let built := Scene.settle (build ⟨0⟩ ⟨1⟩) scene
    let panel : SavePanel := ⟨⟨3⟩, ⟨4⟩, ⟨5⟩, ⟨6⟩, ⟨7⟩, ⟨8⟩⟩
    let opened := Scene.settle popup.popUp built
    let client (code : Empty) (_ : Event) :
        Program (Reaction Extended Empty) (GalleryScene Extended ManualClock Empty Unit) Unit :=
      nomatch code
    let click (link : ViewId) : Event := { source := link, kind := .linkClicked }
    let requests : List (PanelRequest Extended) :=
      List.replicate 15 (.handle (.input (click ⟨5⟩))) ++
        [.scroll nan, .scroll (infinity false), .scroll 30]
    let interpreter := Gallery.interpreter client 1
    let loop := requests.foldl (popup.perform interpreter) ⟨opened, false⟩
    let tree := loop.scene.tree
    0 ≤ panel.scrolled tree ∧ panel.scrolled tree ≤ panel.scrollLimit tree ∧
      panel.scrolled (loop.handle interpreter (.input (click ⟨5⟩))).scene.tree =
        panel.scrolled tree ∧
      panel.scrolled (loop.handle interpreter (.input (click ⟨6⟩))).scene.tree = 0 := by
  intro scene popup built panel opened client click requests
  have htidy : scene.Tidy :=
    Scene.tidy_of_only_tree .counted ManualClock.atEpoch {} (Gallery.new ())
      [.insert ⟨0⟩ .container]
  have hbuild : build ⟨0⟩ ⟨1⟩ scene = .ok popup built := Scene.eq_ok_of_run' (by decide +kernel)
  have hbuilt : built.Tidy := ((build_ends htidy _ _).of_eq hbuild).1
  have hpopUp : popup.popUp built = .ok panel opened := Scene.eq_ok_of_run' (by decide +kernel)
  have hrequests : ∀ request ∈ requests, Follows built request := by decide +kernel
  have h := scroll_position_kept client Nat.one_pos hbuilt hpopUp hrequests
  rcases h with ⟨_, _, hnonneg, hle, _, hclick⟩
  have hadds := hclick (click ⟨5⟩) rfl (by decide +kernel)
  have hreplaces := hclick (click ⟨6⟩) rfl (by decide +kernel)
  rw [if_neg (by decide)] at hadds
  rw [if_pos (by decide)] at hreplaces
  exact ⟨hnonneg, hle, hadds, hreplaces⟩

end PopupButton

end ViewMotion
