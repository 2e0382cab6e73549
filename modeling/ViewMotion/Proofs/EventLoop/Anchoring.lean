import ViewMotion.EventLoop
import ViewMotion.Proofs.Handler.Caution
import ViewMotion.Proofs.Scene.Caution

/-!
This module contains event loops whose handlers are careful, and whose owner is. They only ever make
careful requests to their scene, whether events are handed over directly or through the queue.
-/

namespace ViewMotion

variable {K T A X : Type} [Scalar K]

namespace EventLoop

section Proceeding

variable [Clock T] (interpreter : Interpreter A (Scene K T A X))

inductive Proceeds (loop : EventLoop K T A X) : EventLoop K T A X → Prop where
  | scene {after : Scene K T A X} (h : loop.scene.Proceeds after) :
    Proceeds loop { loop with scene := after }
  | dispatch (event : Event) : Proceeds loop (loop.dispatch interpreter event)
  | frame (now : Instant) : Proceeds loop (loop.frame interpreter now).2
  | handle (message : Message) : Proceeds loop (loop.handle interpreter message)
  | poll (limit : Nat) : Proceeds loop (loop.poll interpreter limit).2

def Leads : EventLoop K T A X → EventLoop K T A X → Prop :=
  Relation.ReflTransGen (Proceeds interpreter)

end Proceeding

section Leading

variable [Clock T] {interpreter : Interpreter A (Scene K T A X)}
  (hcareful : interpreter.Careful) (loop : EventLoop K T A X)

include hcareful

theorem dispatch_leads (event : Event) :
    loop.scene.Leads (loop.dispatch interpreter event).scene :=
  hcareful.run (Program.careful_dispatch event)

theorem foldl_dispatch_leads (events : List Event) :
    loop.scene.Leads (events.foldl (dispatch interpreter) loop).scene := by
  induction events generalizing loop with
  | nil => exact .refl
  | cons event events ih =>
    rw [List.foldl_cons]
    exact (dispatch_leads hcareful loop event).trans (ih _)

theorem frame_leads (now : Instant) : loop.scene.Leads (loop.frame interpreter now).2.scene := by
  unfold frame
  apply (loop.scene.leads_frame now).trans
  exact foldl_dispatch_leads hcareful { loop with scene := (loop.scene.frame now).2 } _

theorem handle_leads (message : Message) :
    loop.scene.Leads (loop.handle interpreter message).scene := by
  cases message with
  | input event => apply dispatch_leads hcareful
  | frame now => apply frame_leads hcareful
  | quit => exact .refl

theorem poll_leads (limit : Nat) : loop.scene.Leads (loop.poll interpreter limit).2.scene := by
  induction limit generalizing loop with
  | zero => exact .refl
  | succ limit ih =>
    unfold poll
    split
    · exact .refl
    · split
      · exact .refl
      · next message queue _ =>
        have htaken := (loop.scene.fills_others queue loop.scene.store).leads
        have hhandled := handle_leads hcareful
          { loop with scene := { loop.scene with queue } } message
        exact (htaken.trans hhandled).trans (ih _)

end Leading

theorem Leads.scene [Clock T] {interpreter : Interpreter A (Scene K T A X)}
    {loop after : EventLoop K T A X} (h : loop.Leads interpreter after)
    (hcareful : interpreter.Careful) : loop.scene.Leads after.scene := by
  induction h with
  | refl => exact .refl
  | @tail middle after _ hproceeds ih =>
    apply ih.trans
    cases hproceeds with
    | scene h => exact .single h
    | dispatch event => apply dispatch_leads hcareful
    | frame now => apply frame_leads hcareful
    | handle message => apply handle_leads hcareful
    | poll limit => apply poll_leads hcareful

theorem leads_of_scene [Clock T] {interpreter : Interpreter A (Scene K T A X)}
    {loop : EventLoop K T A X} {after : Scene K T A X} (h : loop.scene.Leads after) :
    loop.Leads interpreter { loop with scene := after } := by
  induction h with
  | refl => exact .refl
  | tail _ hproceeds ih => exact ih.tail (.scene hproceeds)

/--
In particular, the loop may make its frames by the time that its clock shows.
-/
theorem frameIfDue?_leads {interpreter : Interpreter A (Scene K IntervalClock A X)}
    {loop after : EventLoop K IntervalClock A X} {limit : Nat} {frame : Option Instant}
    (h : loop.frameIfDue? interpreter limit = some (frame, after)) :
    loop.Leads interpreter after := by
  unfold frameIfDue? at h
  rw [Option.map_eq_some_iff] at h
  obtain ⟨⟨due, clock⟩, -, h⟩ := h
  have hset : loop.Leads interpreter { loop with scene := loop.scene.perform (.setClock clock) } :=
    leads_of_scene (loop.scene.leads_perform (.setClock clock) trivial)
  dsimp only at h
  cases due with
  | none =>
    injection h with _ hafter
    subst hafter
    exact hset
  | some now =>
    injection h with _ hafter
    subst hafter
    exact hset.tail (.frame now)

end EventLoop

end ViewMotion
