import ViewMotion.Clock.Manual
import ViewMotion.Proofs.ExactScalar
import ViewMotion.Proofs.Gallery.BubbleBoard.Building
import ViewMotion.Proofs.Gallery.BubbleBoard.Fading

/-!
This module contains what holds for a board of bubbles over any run in which its buttons are pressed
and frames are made, whatever the times of the frames are.
-/

namespace ViewMotion.BubbleBoard

variable {K T C X : Type}

/--
The messages that are about the board: presses of its buttons, and frames.
-/
def Hears (board : BubbleBoard) : Message → Prop
  | .input event => event.kind = .pressed ∧ event.source ∈ board.buttons
  | .frame _ => True
  | .quit => False

instance (board : BubbleBoard) : DecidablePred board.Hears
  | .input event =>
    inferInstanceAs (Decidable (event.kind = .pressed ∧ event.source ∈ board.buttons))
  | .frame _ => .isTrue trivial
  | .quit => .isFalse id

/--
An event loop with a board, the bubbles that have been presented so far, and those that have faded
out.
-/
structure Performance (K T C X : Type) where
  loop : EventLoop K T (Reaction K C) (Gallery X)
  presented : List ViewId
  faded : List ViewId

namespace Performance

def start (built : GalleryScene K T C X) : Performance K T C X where
  loop := ⟨built, false⟩
  presented := []
  faded := []

variable [Scalar K] [Clock T]

/--
The bubble that a press presents is the one that is current afterwards.
-/
def perform (board : BubbleBoard)
    (interpreter : Interpreter (Reaction K C) (GalleryScene K T C X))
    (performance : Performance K T C X) (message : Message) : Performance K T C X :=
  let loop := performance.loop.handle interpreter message
  let scene := performance.loop.scene
  match message with
  | .input _ =>
    let shown := (board.current loop.scene.store).toList
    { performance with loop, presented := performance.presented ++ shown }
  | .frame now =>
    let fades (v : ViewId) : Bool :=
      (board.state scene.store).fading && (v, .completed) ∈ (scene.frame now).1.ended
    let faded := (board.current scene.store).toList.filter fades
    { performance with loop, faded := performance.faded ++ faded }
  | .quit => { performance with loop }

def run (board : BubbleBoard) (interpreter : Interpreter (Reaction K C) (GalleryScene K T C X))
    (performance : Performance K T C X) (messages : List Message) : Performance K T C X :=
  messages.foldl (perform board interpreter) performance

end Performance

variable [Scalar K] [Clock T] {board : BubbleBoard} {built : GalleryScene K T C X}
  {performance : Performance K T C X} {message : Message} {shown : List Bubble}
  {client : C → Event → Program (Reaction K C) (GalleryScene K T C X) Unit} {depth : Nat}

theorem Performance.run_loop (board : BubbleBoard)
    (interpreter : Interpreter (Reaction K C) (GalleryScene K T C X))
    (performance : Performance K T C X) (messages : List Message) :
    (performance.run board interpreter messages).loop =
      messages.foldl (EventLoop.handle interpreter) performance.loop := by
  induction messages generalizing performance with
  | nil => rfl
  | cons message messages ih =>
    have hfirst : (performance.perform board interpreter message).loop =
        performance.loop.handle interpreter message := by
      cases message <;> rfl
    rw [List.foldl_cons, ← hfirst]
    exact ih (performance.perform board interpreter message)

/--
Either a bubble is presented, or a frame is made in which a bubble is closed or not.
-/
inductive Step (board : BubbleBoard) (built : GalleryScene K T C X) (shown : List Bubble)
    (performance : Performance K T C X) : Message → Performance K T C X → Prop where
  | present {event : Event} {bubble : Bubble} {after : GalleryScene K T C X}
    (h : board.Presented built shown performance.loop.scene bubble after) :
    Step board built shown performance (.input event) {
      loop := { performance.loop with scene := after }
      presented := performance.presented ++ [bubble.body]
      faded := performance.faded
    }
  | frame {now : Instant} (hnot : ∀ v, ¬ board.Fades performance.loop.scene now v) :
    Step board built shown performance (.frame now) { performance with
      loop := { performance.loop with scene := (performance.loop.scene.frame now).2 } }
  | close {now : Instant} {v : ViewId} {after : GalleryScene K T C X}
    (hfades : board.Fades performance.loop.scene now v)
    (h : board.Closed built shown (performance.loop.scene.frame now).2 v after) :
    Step board built shown performance (.frame now) {
      loop := { performance.loop with scene := after }
      presented := performance.presented
      faded := performance.faded ++ [v]
    }

variable (client) in
theorem perform_step (hdepth : 0 < depth) (hready : board.Ready built)
    (h : board.Kept built shown performance.loop.scene) (hmessage : board.Hears message) :
    board.Step built shown performance message
      (performance.perform board (Gallery.interpreter client depth) message) := by
  cases message with
  | input event =>
    rcases hmessage with ⟨hkind, hsource⟩
    rcases hready.presents event.source hsource with ⟨style, hstyle⟩
    have hcode : performance.loop.scene.handlers.code? event.source event.kind =
        some (.presentBubble board style) := by
      rw [h.code?_eq (Or.inr (by rw [hkind]; exact nofun)), hkind, hstyle]
    have hanchor : event.source ∈ performance.loop.scene.tree.kinds :=
      h.grown.mem_of_base (hready.buttons_mem event.source hsource)
    have hloop : performance.loop.handle (Gallery.interpreter client depth) (.input event) = _ :=
      Gallery.dispatch_of_some hdepth hcode rfl
    obtain ⟨bubble, hpresented⟩ :=
      Scene.settle_of_ends _ (present_ends h hready hanchor style)
    unfold Performance.perform
    rw [hloop]
    dsimp only
    rw [hpresented.current_eq]
    exact .present hpresented
  | frame now =>
    by_cases hfades : ∃ v, board.Fades performance.loop.scene now v
    · rcases hfades with ⟨v, hfades⟩
      have hloop : performance.loop.handle (Gallery.interpreter client depth) (.frame now) = _ :=
        frame_of_fades hdepth hready h hfades
      unfold Performance.perform
      rw [hloop]
      dsimp only
      rw [hfades.current_eq, hfades.fading, Option.toList_some, List.filter_cons,
        if_pos (by simpa using hfades.ended)]
      exact .close hfades ((h.toShows.frame now).closed hready hfades.current_eq hfades.fading)
    · have hnot (v : ViewId) : ¬ board.Fades performance.loop.scene now v :=
        fun hv => hfades ⟨v, hv⟩
      have hloop : performance.loop.handle (Gallery.interpreter client depth) (.frame now) = _ :=
        frame_of_not_fades hdepth hready h hnot
      have hnone : (board.current performance.loop.scene.store).toList.filter (fun v =>
          (board.state performance.loop.scene.store).fading &&
            (v, .completed) ∈ (performance.loop.scene.frame now).1.ended) = [] := by
        rw [List.filter_eq_nil_iff]
        intro v hv hends
        rw [Bool.and_eq_true, decide_eq_true_iff] at hends
        exact hnot v ⟨Option.mem_toList.mp hv, hends.1, hends.2⟩
      unfold Performance.perform
      rw [hloop]
      dsimp only
      rw [hnone, List.append_nil]
      exact .frame hnot
  | quit => contradiction

def isInput : Message → Bool
  | .input _ => true
  | _ => false

theorem Step.presented_length {next : Performance K T C X}
    (h : board.Step built shown performance message next) :
    next.presented.length = performance.presented.length + if isInput message then 1 else 0 := by
  cases h with
  | present h => simp [isInput]
  | frame hnot => rfl
  | close hfades h => rfl

/--
The bubbles in the layer are those that have been presented and have not faded out.
-/
structure Staged (board : BubbleBoard) (built : GalleryScene K T C X)
    (performance : Performance K T C X) : Prop where
  kept : ∃ shown : List Bubble,
    shown.map Bubble.body = performance.presented.filter (· ∉ performance.faded) ∧
      (∀ bubble ∈ shown, bubble.caption ∉ performance.presented) ∧
      board.Kept built shown performance.loop.scene
  fresh : ∀ v ∈ performance.presented, ¬ built.names.Issued v
  issued : ∀ v ∈ performance.presented, performance.loop.scene.names.Issued v
  nodup : performance.presented.Nodup
  faded_presented : ∀ v ∈ performance.faded, v ∈ performance.presented

omit [Clock T] in
theorem Ready.staged (hready : board.Ready built) : board.Staged built (.start built) where
  kept := ⟨[], rfl, fun _ hb => absurd hb List.not_mem_nil, hready.kept⟩
  fresh _ hv := absurd hv List.not_mem_nil
  issued _ hv := absurd hv List.not_mem_nil
  nodup := List.nodup_nil
  faded_presented _ hv := absurd hv List.not_mem_nil

theorem Staged.step (h : board.Staged built performance)
    (hshown : shown.map Bubble.body = performance.presented.filter (· ∉ performance.faded))
    (hcaptions : ∀ bubble ∈ shown, bubble.caption ∉ performance.presented)
    (hkept : board.Kept built shown performance.loop.scene) {next : Performance K T C X}
    (hstep : board.Step built shown performance message next) : board.Staged built next := by
  cases hstep with
  | @present event bubble after hpresented =>
    have hnew : bubble.body ∉ performance.presented :=
      fun hmem => hpresented.body_fresh (h.issued _ hmem)
    have hlast := hpresented.kept.body_fresh (v := bubble.body) (by simp)
    constructor
    case kept =>
      refine ⟨shown ++ [bubble], ?_, ?_, hpresented.kept⟩
      · have hnot : bubble.body ∉ performance.faded := fun hmem => hnew (h.faded_presented _ hmem)
        rw [List.map_append, hshown, List.filter_append]
        simp [hnot]
      · intro b hb hmem
        have hne : bubble.body ≠ b.caption :=
          body_ne_caption hpresented.kept.grown.nodup (by simp) hb
        cases List.mem_append.mp hmem with
        | inl hmem =>
          cases List.mem_append.mp hb with
          | inl hb => exact hcaptions b hb hmem
          | inr hb =>
            rw [List.mem_singleton.mp hb] at hmem
            exact hpresented.caption_fresh (h.issued _ hmem)
        | inr hmem => exact hne (List.mem_singleton.mp hmem).symm
    case fresh =>
      intro v hv
      cases List.mem_append.mp hv with
      | inl hv => exact h.fresh v hv
      | inr hv => exact List.mem_singleton.mp hv ▸ hlast
    case issued =>
      intro v hv
      cases List.mem_append.mp hv with
      | inl hv => exact hpresented.issued (h.issued v hv)
      | inr hv =>
        rw [List.mem_singleton.mp hv]
        exact hpresented.kept.grown.sound.issued (hpresented.kept.body_mem (by simp))
    case nodup =>
      rw [List.nodup_append]
      refine ⟨h.nodup, List.nodup_singleton _, ?_⟩
      intro v hv w hw heq
      rw [heq, List.mem_singleton.mp hw] at hv
      exact hnew hv
    case faded_presented =>
      exact fun v hv => List.mem_append_left _ (h.faded_presented v hv)
  | @frame now hnot =>
    exact ⟨⟨shown, hshown, hcaptions, hkept.frame hnot⟩, h.fresh, h.issued, h.nodup,
      h.faded_presented⟩
  | @close now v after hfades hclosed =>
    constructor
    case kept =>
      refine ⟨shown.filter (·.body ≠ v), ?_,
        fun b hb => hcaptions b (List.mem_of_mem_filter hb), hclosed.kept⟩
      have hmap : (shown.filter (·.body ≠ v)).map Bubble.body =
          (shown.map Bubble.body).filter (· ≠ v) := by
        rw [List.filter_map]
        rfl
      rw [hmap, hshown, List.filter_filter]
      apply List.filter_congr
      intro w _
      simp [and_comm]
    case fresh => exact h.fresh
    case issued =>
      intro w hw
      change after.names.Issued w
      rw [hclosed.names_eq]
      exact h.issued w hw
    case nodup => exact h.nodup
    case faded_presented =>
      intro w hw
      cases List.mem_append.mp hw with
      | inl hw => exact h.faded_presented w hw
      | inr hw =>
        have hmem := hkept.current_shown hfades.current_eq
        rw [hshown] at hmem
        rw [List.mem_singleton.mp hw]
        exact List.mem_of_mem_filter hmem

/--
Another bubble has taken the place of this one, which stays where it is from then on.
-/
structure Superseded (board : BubbleBoard) (built : GalleryScene K T C X) (v : ViewId)
    (bounds : Option (Rect K)) (shown : List Bubble) (scene : GalleryScene K T C X) : Prop where
  kept : board.Kept built shown scene
  mem : v ∈ shown.map Bubble.body
  not_current : board.current scene.store ≠ some v
  bounds?_eq : scene.tree.bounds? v = bounds

omit [Clock T] in
theorem Presented.superseded {scene after : GalleryScene K T C X} {bubble : Bubble}
    (h : board.Presented built shown scene bubble after)
    (hkept : board.Kept built shown scene) {v : ViewId} (hv : v ∈ shown.map Bubble.body) :
    board.Superseded built v (scene.tree.bounds? v) (shown ++ [bubble]) after := by
  have hissued : scene.names.Issued v := hkept.grown.sound.issued (hkept.body_mem hv)
  constructor
  case kept => exact h.kept
  case mem =>
    rw [List.map_append]
    exact List.mem_append_left _ hv
  case not_current =>
    rw [h.current_eq]
    intro heq
    injection heq with heq
    exact h.body_fresh (heq ▸ hissued)
  case bounds?_eq => exact h.bounds?_eq hissued

theorem Step.superseded {next : Performance K T C X}
    (h : board.Step built shown performance message next) (hinput : isInput message)
    (hkept : board.Kept built shown performance.loop.scene) {v : ViewId}
    (hv : board.current performance.loop.scene.store = some v) :
    ∃ shown', board.Superseded built v (performance.loop.scene.tree.bounds? v) shown'
      next.loop.scene := by
  cases h with
  | present h => exact ⟨_, h.superseded hkept (hkept.current_shown hv)⟩
  | frame hnot => contradiction
  | close hfades h => contradiction

theorem Superseded.step (hready : board.Ready built) {v : ViewId} {bounds : Option (Rect K)}
    (h : board.Superseded built v bounds shown performance.loop.scene)
    {next : Performance K T C X} (hstep : board.Step built shown performance message next) :
    ∃ shown', board.Superseded built v bounds shown' next.loop.scene := by
  have hstill (now : Instant) :
      (performance.loop.scene.frame now).2.tree.bounds? v = bounds := by
    rw [Scene.frame_bounds?]
    split
    · exact h.bounds?_eq
    · next motion hmotion =>
      have hold :=
        (h.kept.moving (Animator.isMoving_of_motion? hmotion)).resolve_right h.not_current
      exact absurd hold (hready.tidy.not_isMoving (h.kept.body_fresh h.mem))
  cases hstep with
  | @present event bubble after hpresented =>
    have hnext := hpresented.superseded h.kept h.mem
    rw [h.bounds?_eq] at hnext
    exact ⟨_, hnext⟩
  | @frame now hnot => exact ⟨shown, h.kept.frame hnot, h.mem, h.not_current, hstill now⟩
  | @close now w after hfades hclosed =>
    have hne : v ≠ w := fun heq => h.not_current (heq ▸ hfades.current_eq)
    rcases List.mem_map.mp h.mem with ⟨bubble, hb, rfl⟩
    refine ⟨_, hclosed.kept, ?_, ?_, ?_⟩
    · apply List.mem_map_of_mem
      rw [List.mem_filter, decide_eq_true_iff]
      exact ⟨hb, hne⟩
    · change board.current after.store ≠ _
      unfold current
      rw [hclosed.state_eq]
      exact nofun
    · exact (hclosed.bounds?_eq hb hne).trans (hstill now)

section Runs

variable (client) (hdepth : 0 < depth) (hready : board.Ready built)

include hdepth hready

theorem Staged.run (h : board.Staged built performance) {messages : List Message}
    (hmessages : ∀ message ∈ messages, board.Hears message) :
    let last := performance.run board (Gallery.interpreter client depth) messages
    board.Staged built last ∧
      last.presented.length = performance.presented.length + messages.countP isInput := by
  induction messages generalizing performance with
  | nil => exact ⟨h, rfl⟩
  | cons message messages ih =>
    rcases h.kept with ⟨shown, hshown, hcaptions, hkept⟩
    have hstep := perform_step client hdepth hready hkept
      (hmessages message List.mem_cons_self)
    have hrest := ih (h.step hshown hcaptions hkept hstep) fun m hm =>
      hmessages m (List.mem_cons_of_mem message hm)
    refine ⟨hrest.1, hrest.2.trans ?_⟩
    have hlength := hstep.presented_length
    rw [hlength, List.countP_cons]
    omega

theorem Superseded.run {v : ViewId} {bounds : Option (Rect K)}
    (h : board.Superseded built v bounds shown performance.loop.scene) {messages : List Message}
    (hmessages : ∀ message ∈ messages, board.Hears message) :
    ∃ shown', board.Superseded built v bounds shown'
      (performance.run board (Gallery.interpreter client depth) messages).loop.scene := by
  induction messages generalizing performance shown with
  | nil => exact ⟨shown, h⟩
  | cons message messages ih =>
    have hstep := perform_step client hdepth hready h.kept
      (hmessages message List.mem_cons_self)
    rcases h.step hready hstep with ⟨shown', hnext⟩
    exact ih hnext fun m hm => hmessages m (List.mem_cons_of_mem message hm)

end Runs

/--
A view that is gone after a step is a bubble that has faded out, or the caption of one.
-/
theorem Step.exists_faded {next : Performance K T C X}
    (h : board.Step built shown performance message next)
    (hkept : board.Kept built shown performance.loop.scene) {v : ViewId}
    (hv : v ∈ performance.loop.scene.tree.kinds) (hgone : v ∉ next.loop.scene.tree.kinds) :
    ∃ now, ∃ bubble ∈ shown, message = .frame now ∧
      board.Fades performance.loop.scene now bubble.body ∧
      (v = bubble.body ∨ v = bubble.caption) ∧
      board.Closed built shown (performance.loop.scene.frame now).2 bubble.body
        next.loop.scene := by
  have hold := (hkept.grown.mem_kinds v).mp hv
  cases h with
  | @present event bubble after hpresented =>
    apply absurd ((hpresented.kept.grown.mem_kinds v).mpr _) hgone
    rw [entries_append, List.map_append, List.mem_append]
    exact hold.imp_left Or.inl
  | @frame now hnot =>
    apply absurd _ hgone
    have hmoved := performance.loop.scene.animator.frame_moved now performance.loop.scene.tree
    exact (hmoved.shape.mem_kinds v).mpr hv
  | @close now w after hfades hclosed =>
    have hleft : v ∉ (board.entries (shown.filter (·.body ≠ w))).map Prod.fst ∧
        v ∉ built.tree.kinds := by
      rw [← not_or]
      exact fun hmem => hgone ((hclosed.kept.grown.mem_kinds v).mpr hmem)
    rcases mem_entries_iff.mp (hold.resolve_right hleft.2) with ⟨bubble, hb, hsame⟩
    have hw : bubble.body = w := by
      by_contra hne
      apply hleft.1
      rw [mem_entries_iff]
      refine ⟨bubble, ?_, hsame⟩
      rw [List.mem_filter, decide_eq_true_iff]
      exact ⟨hb, hne⟩
    subst hw
    exact ⟨now, bubble, hb, rfl, hfades, hsame, hclosed⟩

omit [Clock T] in
theorem ready_of_build {scene : GalleryScene K T C X} (htidy : scene.Tidy)
    {container layer : ViewId} (hlayer : layer ∈ scene.tree.kinds)
    (hbuild : build container layer scene = .ok board built)
    (hempty : built.tree.subviews layer = [])
    (hunheard : ∀ v, built.animator.isMoving v → built.handlers.find? v .motionEnded = none) :
    board.layer = layer ∧ board.Ready built := by
  obtain ⟨hbuilt, rfl, hpresents⟩ := (build_ends htidy container layer).of_eq hbuild
  refine ⟨rfl, ?_⟩
  constructor
  case tidy => exact hbuilt.tidy
  case layer_mem => exact hbuilt.mem_of_mem hlayer
  case layer_empty => exact hempty
  case buttons_mem => exact hbuilt.buttons_mem
  case presents => exact hpresents
  case state_eq => exact hbuilt.state_eq
  case unheard =>
    intro v hv
    unfold HandlerTable.code?
    rw [hunheard v hv]
    rfl

variable (client) in
theorem bubbles_keep_in_step (hdepth : 0 < depth) {scene : GalleryScene K T C X}
    (htidy : scene.Tidy) {container layer : ViewId} (hlayer : layer ∈ scene.tree.kinds)
    (hbuild : build container layer scene = .ok board built)
    (hempty : built.tree.subviews layer = [])
    (hunheard : ∀ v, built.animator.isMoving v → built.handlers.find? v .motionEnded = none)
    {messages : List Message} (hmessages : ∀ message ∈ messages, board.Hears message) :
    let interpreter := Gallery.interpreter client depth
    let now := (Performance.start built).run board interpreter messages
    let scene := now.loop.scene
    now.loop = messages.foldl (EventLoop.handle interpreter) ⟨built, false⟩ ∧
      now.presented.Nodup ∧ now.presented.length = messages.countP isInput ∧
      (∀ v ∈ now.presented, scene.animator.isMoving v → board.current scene.store = some v) ∧
      (∀ v, board.current scene.store = some v → v ∈ now.presented ∧ scene.tree.contains v) ∧
      ((board.state scene.store).fading → ∃ v motion,
        board.current scene.store = some v ∧ scene.animator.motion? v = some motion ∧
          motion.destination.size = .zero ∧
          scene.handlers.code? v .motionEnded = some (.closeFaded board)) ∧
      scene.tree.subviews layer = now.presented.filter (· ∉ now.faded) ∧
      ∀ message, board.Hears message →
        let next := now.perform board interpreter message
        let after := next.loop.scene
        (∀ v ∈ now.presented, scene.tree.contains v → ¬ after.tree.contains v →
          ∃ time caption, message = .frame time ∧ board.Fades scene time v ∧
            board.current after.store = none ∧ scene.tree.subviews v = [caption] ∧
            ¬ after.tree.contains caption ∧ (∀ kind, after.handlers.find? v kind = none) ∧
            after.animator.motion? v = none) ∧
        ∀ v, board.current scene.store = some v → isInput message →
          ∀ later, (∀ message ∈ later, board.Hears message) →
            let last := (next.run board interpreter later).loop.scene
            last.tree.contains v ∧ last.tree.bounds? v = scene.tree.bounds? v := by
  intro interpreter now scene
  obtain ⟨rfl, hready⟩ := ready_of_build htidy hlayer hbuild hempty hunheard
  obtain ⟨hstaged, hlength⟩ := hready.staged.run client hdepth hready hmessages
  rcases hstaged.kept with ⟨shown, hshown, hcaptions, hkept⟩
  have hcurrent {v : ViewId} (hv : board.current scene.store = some v) :
      v ∈ now.presented ∧ v ∈ scene.tree.kinds := by
    have hmem := hkept.current_shown hv
    refine ⟨?_, hkept.body_mem hmem⟩
    rw [hshown] at hmem
    exact List.mem_of_mem_filter hmem
  refine ⟨Performance.run_loop board interpreter _ messages, hstaged.nodup, ?_, ?_, ?_,
    hkept.fading, ?_, ?_⟩
  · exact hlength.trans (Nat.zero_add _)
  · intro v hv hmoving
    exact (hkept.moving hmoving).resolve_left (hready.tidy.not_isMoving (hstaged.fresh v hv))
  · intro v hv
    rw [ViewTree.contains_iff_mem]
    exact hcurrent hv
  · exact (hkept.subviews_layer hready).trans hshown
  · intro message hmessage next after
    have hstep := perform_step client hdepth hready hkept hmessage
    constructor
    · intro v hv hmem hgone
      rw [ViewTree.contains_iff_mem] at hmem hgone
      obtain ⟨time, bubble, hb, heq, hfades, hsame, hclosed⟩ :=
        hstep.exists_faded hkept hmem hgone
      obtain rfl : v = bubble.body :=
        hsame.resolve_right fun hcaption => hcaptions bubble hb (hcaption ▸ hv)
      refine ⟨time, bubble.caption, heq, hfades, ?_, hkept.subviews_body hready hb, ?_,
        hclosed.find?_eq_none, hclosed.motion?_eq_none⟩
      · exact congrArg BoardState.current hclosed.state_eq
      · rw [ViewTree.contains_iff_mem]
        exact hclosed.caption_not_mem hb rfl
    · intro v hv hinput later hlater last
      rcases hstep.superseded hinput hkept hv with ⟨shown', hnext⟩
      rcases hnext.run client hdepth hready hlater with ⟨shown'', hlast⟩
      exact ⟨ViewTree.contains_iff_mem.mpr (hlast.kept.body_mem hlast.mem), hlast.bounds?_eq⟩

theorem bubbles_keep_in_step_amid_fades :
    let scene : GalleryScene Rat ManualClock Empty Unit :=
      (Scene.new .counted .atEpoch {} (.new ())).run [.onTree (.insert ⟨0⟩ .container)]
    let board : BubbleBoard := ⟨⟨2⟩, ⟨3⟩, ⟨4⟩, ⟨5⟩, ⟨1⟩⟩
    let built := Scene.settle (build ⟨0⟩ ⟨1⟩) scene
    let client (code : Empty) (_ : Event) :
        Program (Reaction Rat Empty) (GalleryScene Rat ManualClock Empty Unit) Unit := nomatch code
    let interpreter := Gallery.interpreter client 1
    let press (button : ViewId) : Message := .input { source := button, kind := .pressed }
    let messages := [press ⟨5⟩, .frame ⟨2000000000⟩, press ⟨2⟩, press ⟨5⟩]
    let now := (Performance.start built).run board interpreter messages
    let after := now.perform board interpreter (.frame ⟨4000000000⟩)
    build ⟨0⟩ ⟨1⟩ scene = .ok board built ∧ now.presented = [⟨6⟩, ⟨8⟩, ⟨10⟩] ∧
      now.loop.scene.tree.subviews ⟨1⟩ = now.presented.filter (· ∉ now.faded) ∧
      ∃ time caption, Message.frame ⟨4000000000⟩ = .frame time ∧
        board.Fades now.loop.scene time ⟨10⟩ ∧ board.current after.loop.scene.store = none ∧
        now.loop.scene.tree.subviews ⟨10⟩ = [caption] ∧
        ¬ after.loop.scene.tree.contains caption ∧
        (∀ kind, after.loop.scene.handlers.find? ⟨10⟩ kind = none) ∧
        after.loop.scene.animator.motion? ⟨10⟩ = none := by
  intro scene board built client interpreter press messages now after
  have htidy : scene.Tidy :=
    Scene.tidy_of_only_tree .counted ManualClock.atEpoch {} (Gallery.new ())
      [.insert ⟨0⟩ .container]
  have hbuild : build ⟨0⟩ ⟨1⟩ scene = .ok board built := Scene.eq_ok_of_run' (by decide +kernel)
  have hidle : built.animator.motions = ∅ := by
    rw [← Std.ExtTreeMap.isEmpty_iff]
    decide +kernel
  have hmessages : ∀ message ∈ messages, board.Hears message := by decide +kernel
  have h := bubbles_keep_in_step client Nat.one_pos htidy
    (by decide +kernel) hbuild (by decide +kernel) (by simp [Animator.isMoving, hidle])
    hmessages
  rcases h with ⟨_, _, _, _, _, _, hlayer, hnext⟩
  have hpresented : now.presented = [⟨6⟩, ⟨8⟩, ⟨10⟩] := by decide +kernel
  unfold after now interpreter
  refine ⟨hbuild, hpresented, hlayer, ?_⟩
  apply (hnext (.frame ⟨4000000000⟩) (by decide +kernel)).1
  · decide +kernel
  · decide +kernel
  · decide +kernel

end ViewMotion.BubbleBoard
