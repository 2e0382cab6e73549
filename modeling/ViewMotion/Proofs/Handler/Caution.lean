import ViewMotion.Proofs.Handler.Machine
import ViewMotion.Proofs.Scene.Anchoring

/-!
This module contains handlers that make careful requests only, one step after another. It does not
matter how they call each other, nor what their owner asks for while none of them is active.
-/

namespace ViewMotion

variable {K T A X ε α : Type} [Scalar K] [Clock T]

/--
Whatever the program sets, careful requests lead there from the scene that it finds. The handlers
that it calls may make such requests of their own.
-/
def Program.Careful : Scene K T A X → Program A (Scene K T A X) α → Prop
  | _, .pure _ => True
  | scene, .get next => (next scene).Careful scene
  | scene, .set after next => scene.Leads after ∧ next.Careful after
  | scene, .call _ _ next => ∀ ran after, scene.Leads after → (next ran).Careful after

def Interpreter.Careful (interpreter : Interpreter A (Scene K T A X)) : Prop :=
  ∀ code event scene, (interpreter.program code event).Careful scene

namespace Program

variable {β : Type} {scene : Scene K T A X}

theorem Careful.bind {program : Program A (Scene K T A X) α}
    {f : α → Program A (Scene K T A X) β} (h : program.Careful scene)
    (hf : ∀ result after, scene.Leads after → (f result).Careful after) :
    (program.bind f).Careful scene := by
  induction program generalizing scene with
  | pure result => exact hf result scene .refl
  | get next ih => exact ih scene h hf
  | set after next ih =>
    exact ⟨h.1, ih h.2 fun result last hlast => hf result last (h.1.trans hlast)⟩
  | call handler event next ih =>
    intro ran after hafter
    exact ih ran (h ran after hafter) fun result last hlast => hf result last (hafter.trans hlast)

theorem careful_step {f : Scene K T A X → α × Scene K T A X} (h : scene.Leads (f scene).2) :
    (step f : Program A (Scene K T A X) α).Careful scene :=
  ⟨h, trivial⟩

theorem careful_attempt {action : EStateM ε (Scene K T A X) α}
    (h : scene.Leads (Scene.settle action scene)) :
    (attempt action : Program A (Scene K T A X) (Except ε α)).Careful scene := by
  apply careful_step
  unfold Scene.settle at h
  cases haction : action scene <;> simpa [haction] using h

theorem careful_dispatch (event : Event) :
    (Scene.dispatch event : Program A (Scene K T A X) Bool).Careful scene := by
  unfold Scene.dispatch Careful
  dsimp only
  split <;> simp [Careful]

def CallsLead (call : Handler A → Event → Turn (Scene K T A X) → Bool × Turn (Scene K T A X)) :
    Prop :=
  ∀ handler event (turn : Turn (Scene K T A X)),
    turn.state.Leads (call handler event turn).2.state

theorem Careful.exec {program : Program A (Scene K T A X) α}
    {call : Handler A → Event → Turn (Scene K T A X) → Bool × Turn (Scene K T A X)}
    (hcall : CallsLead call) (turn : Turn (Scene K T A X)) (h : program.Careful turn.state) :
    turn.state.Leads (program.exec call turn).2.state := by
  induction program generalizing turn with
  | pure result => exact .refl
  | get next ih => exact ih turn.state turn h
  | set after next ih => exact h.1.trans (ih { turn with state := after } h.2)
  | call handler event next ih =>
    have hcalled := hcall handler event turn
    exact hcalled.trans (ih _ _ (h _ _ hcalled))

end Program

namespace Interpreter

variable {interpreter : Interpreter A (Scene K T A X)}

theorem Careful.callWithin (h : interpreter.Careful) (depth : Nat) :
    Program.CallsLead (interpreter.callWithin depth) := by
  induction depth with
  | zero => exact fun _ _ _ => .refl
  | succ depth ih =>
    intro handler event turn
    unfold Interpreter.callWithin
    split
    · exact .refl
    · have hprogram := h handler.code event (turn.enter handler.id).state
      exact hprogram.exec ih _

theorem Careful.run (h : interpreter.Careful) {program : Program A (Scene K T A X) α}
    {scene : Scene K T A X} (hprogram : program.Careful scene) :
    scene.Leads (interpreter.run program scene).2 :=
  hprogram.exec (h.callWithin interpreter.depth) ⟨scene, []⟩

end Interpreter

namespace Machine

/--
If the next step is one that sets the scene, then careful requests lead there.
-/
def StepsCarefully (machine : Machine A (Scene K T A X)) : Prop :=
  ∀ id after next callers, machine.activations = ⟨id, .set after next⟩ :: callers →
    machine.state.Leads after

inductive Proceeds (program : A → Event → Program A (Scene K T A X) Unit) :
    Machine A (Scene K T A X) → Machine A (Scene K T A X) → Prop where
  | scene {scene after : Scene K T A X} (h : scene.Proceeds after) :
    Proceeds program ⟨scene, []⟩ ⟨after, []⟩
  | enter (handler : Handler A) (event : Event) (scene : Scene K T A X) :
    Proceeds program ⟨scene, []⟩ (enter program handler event scene [])
  | step {machine : Machine A (Scene K T A X)} (h : machine.StepsCarefully) :
    Proceeds program machine (machine.step program)

/--
The machine gets to the other one by careful steps, by calls of handlers while none is active, and
by careful requests that are made in the meantime.
-/
def Leads (program : A → Event → Program A (Scene K T A X) Unit) :
    Machine A (Scene K T A X) → Machine A (Scene K T A X) → Prop :=
  Relation.ReflTransGen (Proceeds program)

section Stepping

variable {program : A → Event → Program A (Scene K T A X) Unit}
  {machine after : Machine A (Scene K T A X)}

theorem stepsCarefully_of_rest {scene : Scene K T A X} {rest : Program A (Scene K T A X) Unit}
    (h : rest.Careful scene) (id : HandlerId) (callers : List (Activation A (Scene K T A X))) :
    StepsCarefully ⟨scene, ⟨id, rest⟩ :: callers⟩ := by
  intro id after next callers heq
  injection heq with heq
  injection heq with _ hrest
  subst hrest
  exact h.1

theorem StepsCarefully.step (h : machine.StepsCarefully) :
    machine.state.Leads (machine.step program).state := by
  cases machine with
  | mk state activations =>
    cases activations with
    | nil => exact .refl
    | cons activation callers =>
      obtain ⟨id, rest⟩ := activation
      cases rest with
      | pure result => exact .refl
      | get next => exact .refl
      | set after next => exact h id after next callers rfl
      | call handler event next =>
        unfold Machine.step
        dsimp only
        split <;> exact .refl

theorem Leads.state (h : machine.Leads program after) : machine.state.Leads after.state := by
  induction h with
  | refl => exact .refl
  | tail _ hproceeds ih =>
    cases hproceeds with
    | scene h => exact ih.tail h
    | enter handler event scene => exact ih
    | step h => exact ih.trans h.step

theorem leads_of_scene {scene after : Scene K T A X} (h : scene.Leads after) :
    Leads program ⟨scene, []⟩ ⟨after, []⟩ := by
  induction h with
  | refl => exact .refl
  | tail _ hproceeds ih => exact ih.tail (.scene hproceeds)

/--
A handler that calls nobody is left again, after careful steps only.
-/
theorem exists_leads {rest : Program A (Scene K T A X) Unit}
    (hcalls : rest.Keeps (fun _ => True) []) {scene : Scene K T A X} (hrest : rest.Careful scene)
    (id : HandlerId) (callers : List (Activation A (Scene K T A X))) :
    ∃ after, Leads program ⟨scene, ⟨id, rest⟩ :: callers⟩ ⟨after, callers⟩ := by
  induction rest generalizing scene with
  | pure result => exact ⟨scene, .single (.step (stepsCarefully_of_rest hrest id callers))⟩
  | get next ih =>
    obtain ⟨after, hafter⟩ := ih scene (hcalls scene trivial) hrest
    exact ⟨after, .head (.step (stepsCarefully_of_rest hrest id callers)) hafter⟩
  | set middle next ih =>
    obtain ⟨after, hafter⟩ := ih hcalls.2 hrest.2
    exact ⟨after, .head (.step (stepsCarefully_of_rest hrest id callers)) hafter⟩
  | call handler event next ih => exact absurd hcalls.1 List.not_mem_nil

end Stepping

/--
Each handler that is active goes on with careful requests, once those that it has called are done
with theirs.
-/
def Careful (machine : Machine A (Scene K T A X)) : Prop :=
  match machine.activations with
  | [] => True
  | activation :: callers =>
    activation.rest.Careful machine.state ∧
      ∀ caller ∈ callers, ∀ after, machine.state.Leads after → caller.rest.Careful after

variable {interpreter : Interpreter A (Scene K T A X)} {machine : Machine A (Scene K T A X)}

theorem Careful.stepsCarefully (h : machine.Careful) : machine.StepsCarefully := by
  cases machine with
  | mk scene activations =>
    cases activations with
    | nil => exact fun _ _ _ _ heq => by contradiction
    | cons activation callers => exact stepsCarefully_of_rest h.1 activation.id callers

theorem Careful.step (h : machine.Careful) (hcareful : interpreter.Careful) :
    (machine.step interpreter.program).Careful := by
  cases machine with
  | mk state activations =>
    cases activations with
    | nil => trivial
    | cons activation callers =>
      obtain ⟨id, rest⟩ := activation
      obtain ⟨hrest, hcallers⟩ := h
      cases rest with
      | pure result =>
        unfold Machine.step
        cases callers with
        | nil => trivial
        | cons caller callers =>
          refine ⟨hcallers caller List.mem_cons_self state .refl, ?_⟩
          exact fun other hother => hcallers other (List.mem_cons_of_mem caller hother)
      | get next => exact ⟨hrest, hcallers⟩
      | set after next =>
        refine ⟨hrest.2, ?_⟩
        exact fun caller hcaller last hlast => hcallers caller hcaller last (hrest.1.trans hlast)
      | call handler event next =>
        unfold Machine.step
        dsimp only
        split
        · exact ⟨hrest false state .refl, hcallers⟩
        · refine ⟨hcareful handler.code event state, ?_⟩
          intro caller hcaller after hafter
          rw [List.mem_cons] at hcaller
          cases hcaller with
          | inl heq =>
            subst heq
            exact hrest true after hafter
          | inr hmem => exact hcallers caller hmem after hafter

theorem enter_careful (hcareful : interpreter.Careful) (handler : Handler A) (event : Event)
    (scene : Scene K T A X) : (enter interpreter.program handler event scene []).Careful :=
  ⟨hcareful handler.code event scene, by simp⟩

theorem Careful.after (h : machine.Careful) (hcareful : interpreter.Careful) (steps : Nat) :
    machine.Leads interpreter.program (machine.after interpreter.program steps) ∧
      (machine.after interpreter.program steps).Careful := by
  induction steps with
  | zero => exact ⟨.refl, h⟩
  | succ steps ih =>
    rw [after_succ]
    exact ⟨ih.1.tail (.step ih.2.stepsCarefully), ih.2.step hcareful⟩

end Machine

end ViewMotion
