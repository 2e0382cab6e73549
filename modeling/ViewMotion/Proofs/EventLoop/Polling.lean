import Mathlib.Data.List.Basic
import ViewMotion.Clock.Manual
import ViewMotion.EventLoop
import ViewMotion.Proofs.ExactScalar
import ViewMotion.Proofs.Gallery.Caution
import ViewMotion.Proofs.Scene.History

/-!
This module contains what polls do to the messages that have been sent. Somebody else may send
messages at any time, also between two rounds of a poll.
-/

namespace ViewMotion

variable {K T A X : Type}

namespace EventLoop

def withQueue (queue : List Message) (loop : EventLoop K T A X) : EventLoop K T A X :=
  { loop with scene := loop.scene.withQueue queue }

/--
The message that the next round of a poll takes off the queue, unless the poll ends instead.
-/
def receive? (loop : EventLoop K T A X) : Option (Message × EventLoop K T A X) :=
  if loop.hasQuit then none
  else
    match loop.scene.queue with
    | [] => none
    | message :: queue => some (message, loop.withQueue queue)

theorem receive?_eq_none_iff {loop : EventLoop K T A X} :
    loop.receive? = none ↔ loop.hasQuit ∨ loop.scene.queue = [] := by
  unfold receive?
  split
  · next hquit => simp [hquit]
  · next hquit => split <;> simp_all

theorem receive?_eq_some_iff {loop taken : EventLoop K T A X} {message : Message} :
    loop.receive? = some (message, taken) ↔
      loop.hasQuit = false ∧ ∃ queue, loop.scene.queue = message :: queue ∧
        taken = loop.withQueue queue := by
  unfold receive?
  split
  · next hquit => simp [hquit]
  · next hquit =>
    rw [Bool.not_eq_true] at hquit
    split
    · next hnil => simp [hnil]
    · next first queue hcons =>
      simp only [hcons, hquit, Option.some.injEq, Prod.mk.injEq, List.cons.injEq, true_and]
      constructor
      · intro ⟨hfirst, htaken⟩
        exact ⟨queue, ⟨hfirst, rfl⟩, htaken.symm⟩
      · intro ⟨rest, ⟨hfirst, hrest⟩, htaken⟩
        exact ⟨hfirst, hrest ▸ htaken.symm⟩

variable [Scalar K] [Clock T] {interpreter : Interpreter A (Scene K T A X)}

theorem poll_succ (limit : Nat) (loop : EventLoop K T A X) :
    loop.poll interpreter (limit + 1) =
      match loop.receive? with
      | none => (!loop.hasQuit, loop)
      | some (message, taken) => (taken.handle interpreter message).poll interpreter limit := by
  conv => lhs; unfold poll
  unfold receive?
  split
  · next hquit => simp [hquit]
  · next hquit =>
    rw [Bool.not_eq_true] at hquit
    cases loop.scene.queue with
    | nil => simp [hquit]
    | cons message queue => rfl

theorem poll_fst (limit : Nat) (loop : EventLoop K T A X) :
    (loop.poll interpreter limit).1 = !(loop.poll interpreter limit).2.hasQuit := by
  induction limit generalizing loop with
  | zero => rfl
  | succ limit ih =>
    rw [poll_succ]
    cases loop.receive? with
    | none => rfl
    | some received => apply ih

section Silent

variable (hsilent : interpreter.SendsNothing)

include hsilent

omit [Scalar K] [Clock T] in
theorem dispatch_withQueue (loop : EventLoop K T A X) (queue : List Message) (event : Event) :
    (loop.withQueue queue).dispatch interpreter event =
        (loop.dispatch interpreter event).withQueue queue ∧
      (loop.dispatch interpreter event).scene.queue = loop.scene.queue := by
  have hrun := hsilent.run (Program.dispatch_leavesQueue event) loop.scene queue
  refine ⟨?_, hrun.2⟩
  unfold dispatch
  exact congrArg (EventLoop.mk · loop.hasQuit) hrun.1

omit [Scalar K] [Clock T] in
theorem foldl_dispatch_withQueue (events : List Event) (loop : EventLoop K T A X)
    (queue : List Message) :
    events.foldl (dispatch interpreter) (loop.withQueue queue) =
        (events.foldl (dispatch interpreter) loop).withQueue queue ∧
      (events.foldl (dispatch interpreter) loop).scene.queue = loop.scene.queue := by
  induction events generalizing loop with
  | nil => exact ⟨rfl, rfl⟩
  | cons event events ih =>
    have hfirst := dispatch_withQueue hsilent loop queue event
    have hrest := ih (loop.dispatch interpreter event)
    rw [List.foldl_cons, List.foldl_cons, hfirst.1]
    exact ⟨hrest.1, hrest.2.trans hfirst.2⟩

theorem handle_withQueue (loop : EventLoop K T A X) (queue : List Message) (message : Message) :
    (loop.withQueue queue).handle interpreter message =
        (loop.handle interpreter message).withQueue queue ∧
      (loop.handle interpreter message).scene.queue = loop.scene.queue := by
  cases message with
  | input event => exact dispatch_withQueue hsilent loop queue event
  | frame now =>
    exact foldl_dispatch_withQueue hsilent
      ((loop.scene.frame now).1.ended.map fun entry => .motionEnded entry.1 entry.2)
      { loop with scene := (loop.scene.frame now).2 } queue
  | quit => exact ⟨rfl, rfl⟩

omit hsilent in
theorem handle_hasQuit (loop : EventLoop K T A X) (message : Message) :
    (loop.handle interpreter message).hasQuit = (loop.hasQuit || message == .quit) := by
  have keeps (events : List Event) (loop : EventLoop K T A X) :
      (events.foldl (dispatch interpreter) loop).hasQuit = loop.hasQuit := by
    induction events generalizing loop with
    | nil => rfl
    | cons event events ih => exact ih (loop.dispatch interpreter event)
  cases message with
  | input event => exact (Bool.or_false loop.hasQuit).symm
  | frame now => exact (keeps _ _).trans (Bool.or_false loop.hasQuit).symm
  | quit => exact (Bool.or_true loop.hasQuit).symm

end Silent

end EventLoop

inductive PollAction where
  | send (message : Message)
  | poll
  /-- The next round of the poll that is under way. -/
  | round
deriving DecidableEq, Repr

def PollAction.message? : PollAction → Option Message
  | .send message => some message
  | .poll | .round => none

/--
A loop, whether somebody is polling it, and what has happened to it so far.
-/
structure Exchange (K T A X : Type) where
  loop : EventLoop K T A X
  isPolling : Bool
  sent : List Message
  handled : List Message
  /-- What the polls have returned that are over. -/
  answers : List Bool

namespace Exchange

def start (loop : EventLoop K T A X) : Exchange K T A X := ⟨loop, false, loop.scene.queue, [], []⟩

variable [Scalar K] [Clock T] (interpreter : Interpreter A (Scene K T A X))

def perform (exchange : Exchange K T A X) : PollAction → Exchange K T A X
  | .send message =>
    { exchange with
      loop := { exchange.loop with scene := exchange.loop.scene.send message }
      sent := exchange.sent ++ [message] }
  | .poll => { exchange with isPolling := true }
  | .round =>
    if exchange.isPolling then
      match exchange.loop.receive? with
      | none =>
        { exchange with
          isPolling := false
          answers := exchange.answers ++ [!exchange.loop.hasQuit] }
      | some (message, taken) =>
        { exchange with
          loop := taken.handle interpreter message
          handled := exchange.handled ++ [message] }
    else exchange

def run (exchange : Exchange K T A X) (actions : List PollAction) : Exchange K T A X :=
  actions.foldl (perform interpreter) exchange

structure Sound (initial : EventLoop K T A X) (exchange : Exchange K T A X) : Prop where
  sent_eq : exchange.sent = exchange.handled ++ exchange.loop.scene.queue
  loop_eq :
    exchange.loop =
      (exchange.handled.foldl (EventLoop.handle interpreter) initial).withQueue
        exchange.loop.scene.queue
  hasQuit_eq : exchange.loop.hasQuit = exchange.handled.contains .quit
  quit_last : .quit ∉ exchange.handled.dropLast

variable {interpreter} {initial : EventLoop K T A X} {exchange : Exchange K T A X}

theorem start_sound (h : initial.hasQuit = false) : (start initial).Sound interpreter initial where
  sent_eq := rfl
  loop_eq := rfl
  hasQuit_eq := h
  quit_last := List.not_mem_nil

theorem Sound.perform (hsilent : interpreter.SendsNothing) (h : exchange.Sound interpreter initial)
    (action : PollAction) : (exchange.perform interpreter action).Sound interpreter initial := by
  cases action with
  | send message =>
    constructor
    case sent_eq =>
      change exchange.sent ++ [message] =
        exchange.handled ++ (exchange.loop.scene.queue ++ [message])
      rw [h.sent_eq, List.append_assoc]
    case loop_eq =>
      unfold Exchange.perform
      dsimp only
      rw [h.loop_eq]
      rfl
    case hasQuit_eq => exact h.hasQuit_eq
    case quit_last => exact h.quit_last
  | poll => exact ⟨h.sent_eq, h.loop_eq, h.hasQuit_eq, h.quit_last⟩
  | round =>
    unfold Exchange.perform
    dsimp only
    split
    · split
      · exact ⟨h.sent_eq, h.loop_eq, h.hasQuit_eq, h.quit_last⟩
      · next message taken hreceive =>
        rw [EventLoop.receive?_eq_some_iff] at hreceive
        rcases hreceive with ⟨hrunning, queue, hqueue, rfl⟩
        have hhandle := EventLoop.handle_withQueue hsilent exchange.loop queue message
        have hnoQuit : Message.quit ∉ exchange.handled := by
          rw [← List.contains_iff_mem, ← h.hasQuit_eq, hrunning]
          exact Bool.false_ne_true
        constructor
        case sent_eq =>
          dsimp only
          rw [hhandle.1, h.sent_eq, hqueue, List.append_assoc]
          rfl
        case loop_eq =>
          dsimp only
          rw [hhandle.1, List.foldl_append]
          conv => lhs; rw [h.loop_eq]
          rw [(EventLoop.handle_withQueue hsilent _ _ message).1]
          rfl
        case hasQuit_eq =>
          dsimp only
          rw [EventLoop.handle_hasQuit, List.contains_append]
          change (exchange.loop.hasQuit || _) = _
          rw [h.hasQuit_eq]
          simp [eq_comm, beq_eq_decide]
        case quit_last =>
          dsimp only
          rw [List.dropLast_concat]
          exact hnoQuit
    · exact h

theorem Sound.run (hsilent : interpreter.SendsNothing) (h : exchange.Sound interpreter initial)
    (actions : List PollAction) : (exchange.run interpreter actions).Sound interpreter initial := by
  induction actions generalizing exchange with
  | nil => exact h
  | cons action actions ih => exact ih (h.perform hsilent action)

theorem Sound.not_hasQuit (h : exchange.Sound interpreter initial) :
    (!exchange.loop.hasQuit) = decide (.quit ∉ exchange.handled) := by
  rw [h.hasQuit_eq, List.contains_eq_mem, decide_not]

theorem Sound.all_handled (h : exchange.Sound interpreter initial)
    (hlast : exchange.loop.receive? = none) :
    .quit ∈ exchange.handled ∨ exchange.handled = exchange.sent := by
  cases EventLoop.receive?_eq_none_iff.mp hlast with
  | inl hquit =>
    rw [h.hasQuit_eq, List.contains_iff_mem] at hquit
    exact Or.inl hquit
  | inr hempty =>
    rw [h.sent_eq, hempty, List.append_nil]
    exact Or.inr rfl

theorem perform_sent (exchange : Exchange K T A X) (action : PollAction) :
    (exchange.perform interpreter action).sent = exchange.sent ++ action.message?.toList := by
  cases action with
  | send message => rfl
  | poll => exact (List.append_nil _).symm
  | round =>
    unfold perform PollAction.message?
    rw [Option.toList_none, List.append_nil]
    dsimp only
    repeat' split
    all_goals rfl

theorem run_sent (exchange : Exchange K T A X) (actions : List PollAction) :
    (exchange.run interpreter actions).sent =
      exchange.sent ++ actions.filterMap PollAction.message? := by
  induction actions generalizing exchange with
  | nil => exact (List.append_nil _).symm
  | cons action actions ih =>
    have hrest := ih (exchange.perform interpreter action)
    rw [perform_sent, List.append_assoc] at hrest
    rw [List.filterMap_cons]
    cases hmessage : action.message? <;> rw [hmessage] at hrest <;> exact hrest

theorem round_last (hpolling : exchange.isPolling) (hlast : exchange.loop.receive? = none) :
    exchange.perform interpreter .round =
      { exchange with
        isPolling := false
        answers := exchange.answers ++ [!exchange.loop.hasQuit] } := by
  unfold perform
  rw [if_pos hpolling, hlast]

theorem run_rounds_idle (hidle : exchange.isPolling = false) (count : Nat) :
    exchange.run interpreter (List.replicate count .round) = exchange := by
  induction count with
  | zero => rfl
  | succ count ih =>
    have hround : exchange.perform interpreter .round = exchange := by
      unfold perform
      rw [hidle]
      rfl
    change (exchange.perform interpreter .round).run interpreter (List.replicate count .round) = _
    rw [hround, ih]

theorem run_rounds (hsilent : interpreter.SendsNothing) (hpolling : exchange.isPolling)
    {limit : Nat} (hlimit : exchange.loop.scene.queue.length < limit) :
    let last := exchange.run interpreter (List.replicate limit .round)
    last.isPolling = false ∧ last.loop.receive? = none ∧
      last.loop = (exchange.loop.poll interpreter limit).2 ∧
      last.answers = exchange.answers ++ [(exchange.loop.poll interpreter limit).1] := by
  induction limit generalizing exchange with
  | zero => contradiction
  | succ limit ih =>
    have hfirst : exchange.run interpreter (List.replicate (limit + 1) .round) =
      (exchange.perform interpreter .round).run interpreter (List.replicate limit .round) := rfl
    dsimp only
    rw [hfirst, EventLoop.poll_succ]
    cases hreceive : exchange.loop.receive? with
    | none =>
      rw [round_last hpolling hreceive, run_rounds_idle rfl]
      exact ⟨rfl, hreceive, rfl, rfl⟩
    | some received =>
      rcases received with ⟨message, taken⟩
      have hround : exchange.perform interpreter .round =
          { exchange with
            loop := taken.handle interpreter message
            handled := exchange.handled ++ [message] } := by
        unfold perform
        rw [if_pos hpolling, hreceive]
      rw [EventLoop.receive?_eq_some_iff] at hreceive
      rcases hreceive with ⟨-, queue, hqueue, rfl⟩
      have hshorter := (EventLoop.handle_withQueue hsilent
        (exchange.loop.withQueue queue) queue message).2
      rw [hqueue, List.length_cons] at hlimit
      rw [hround]
      apply ih (by exact hpolling)
      dsimp only
      rw [hshorter]
      exact Nat.lt_of_succ_lt_succ hlimit

end Exchange

namespace EventLoop

variable [Scalar K] [Clock T] {interpreter : Interpreter A (Scene K T A X)}

theorem polls_handle_in_order (hsilent : interpreter.SendsNothing)
    {initial : EventLoop K T A X} (hrunning : initial.hasQuit = false)
    (actions : List PollAction) :
    let now := (Exchange.start initial).run interpreter actions
    let sent := initial.scene.queue ++ actions.filterMap PollAction.message?
    sent = now.handled ++ now.loop.scene.queue ∧
      now.loop =
        (now.handled.foldl (handle interpreter) initial).withQueue now.loop.scene.queue ∧
      .quit ∉ now.handled.dropLast ∧
      (now.isPolling → now.loop.receive? = none →
        (.quit ∈ now.handled ∨ now.handled = sent) ∧
          now.perform interpreter .round =
            { now with
              isPolling := false
              answers := now.answers ++ [decide (.quit ∉ now.handled)] }) ∧
      ∀ limit, now.loop.scene.queue.length < limit →
        let polled := now.run interpreter (.poll :: List.replicate limit .round)
        let (answer, last) := now.loop.poll interpreter limit
        polled.isPolling = false ∧ polled.loop = last ∧ polled.answers = now.answers ++ [answer] ∧
          (.quit ∈ polled.handled ∨ polled.handled = sent) ∧
          answer = decide (.quit ∉ polled.handled) := by
  intro now sent
  have hstart : (Exchange.start initial).Sound interpreter initial := Exchange.start_sound hrunning
  have hsound := hstart.run hsilent actions
  have hsent : now.sent = sent := Exchange.run_sent (Exchange.start initial) actions
  refine ⟨hsent ▸ hsound.sent_eq, hsound.loop_eq, hsound.quit_last, ?_, ?_⟩
  · intro hpolling hlast
    refine ⟨hsent ▸ hsound.all_handled hlast, ?_⟩
    rw [Exchange.round_last hpolling hlast, hsound.not_hasQuit]
  · intro limit hlimit polled
    have hpolled := hsound.run hsilent (.poll :: List.replicate limit .round)
    have hall : polled.sent = now.sent := by
      have hsends : (PollAction.poll :: List.replicate limit .round).filterMap
          PollAction.message? = [] := by
        simp [PollAction.message?]
      rw [← List.append_nil now.sent, ← hsends]
      apply Exchange.run_sent
    have hpolling : (now.perform interpreter .poll).isPolling := rfl
    rcases Exchange.run_rounds hsilent hpolling hlimit with
      ⟨hover, hlast, hloop, hanswers⟩
    refine ⟨hover, hloop, hanswers, ?_, ?_⟩
    · rw [← hsent, ← hall]
      exact hpolled.all_handled hlast
    · rw [poll_fst, ← hpolled.not_hasQuit]
      exact congrArg (fun loop => !loop.hasQuit) hloop.symm

theorem polls_handle_in_order_amid_sends :
    let interpreter : Interpreter _ (GalleryScene Rat ManualClock Empty Unit) :=
      Gallery.interpreter (fun code _ => nomatch code) 1
    let scene := Scene.settle (BoxDemo.build ⟨0⟩) (.new .counted .atEpoch {} (.new ()))
    let press : Message := .input { source := ⟨3⟩, kind := .pressed }
    let initial : EventLoop _ _ _ _ := ⟨scene, false⟩
    let actions : List PollAction := [
      .send press,
      .poll,
      .round,
      .send (.frame ⟨1000000000⟩),
      .send .quit,
      .send press,
      .round,
      .round
    ]
    let now := (Exchange.start initial).run interpreter actions
    now.handled = [press, .frame ⟨1000000000⟩, .quit] ∧ now.loop.scene.queue = [press] ∧
      now.loop = (now.handled.foldl (handle interpreter) initial).withQueue [press] ∧
      now.loop.scene.tree.bounds? ⟨2⟩ = some BoxDemo.destination ∧
      (now.perform interpreter .round).answers = [false] ∧
      now.loop.poll interpreter 2 = (false, now.loop) := by
  intro interpreter scene press initial actions now
  have hsilent : interpreter.SendsNothing :=
    Gallery.interpreter_sendsNothing (fun code => nomatch code) 1
  have hrunning : initial.hasQuit = false := rfl
  obtain ⟨-, hloop, -, hlast, -⟩ := polls_handle_in_order hsilent hrunning actions
  have hhandled : now.handled = [press, .frame ⟨1000000000⟩, .quit] := by decide +kernel
  have hqueue : now.loop.scene.queue = [press] := by decide +kernel
  have hpolling : now.isPolling := by decide +kernel
  have hquit : now.loop.hasQuit := by decide +kernel
  have hanswer := (hlast hpolling (receive?_eq_none_iff.mpr (Or.inl hquit))).2
  refine ⟨hhandled, hqueue, hqueue ▸ hloop, by decide +kernel, ?_, ?_⟩
  · rw [hanswer]
    decide +kernel
  · rw [poll_succ, receive?_eq_none_iff.mpr (Or.inl hquit)]
    dsimp only
    rw [hquit]
    rfl

end EventLoop

end ViewMotion
