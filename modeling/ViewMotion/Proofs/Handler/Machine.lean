import Mathlib.Logic.Function.Iterate
import ViewMotion.Proofs.Handler.Lock

/-!
This module contains handlers that run inside each other, one step after another. Nothing bounds
their depth here, as opposed to an interpreter. The handlers of a finite collection still come to an
end, and to the same one.
-/

namespace ViewMotion

variable {A σ : Type}

/--
The rest of the program of a handler that has been entered and has not been left yet.
-/
structure Activation (A σ : Type) where
  id : HandlerId
  rest : Program A σ Unit

/--
A state, and the handlers that are active in it, the innermost one first.
-/
structure Machine (A σ : Type) where
  state : σ
  activations : List (Activation A σ)

namespace Machine

def active (machine : Machine A σ) : List HandlerId := machine.activations.map Activation.id

def turn (machine : Machine A σ) : Turn σ := ⟨machine.state, machine.active⟩

section Steps

variable (program : A → Event → Program A σ Unit)

def enter (handler : Handler A) (event : Event) (state : σ) (callers : List (Activation A σ)) :
    Machine A σ :=
  ⟨state, ⟨handler.id, program handler.code event⟩ :: callers⟩

def step : Machine A σ → Machine A σ
  | ⟨state, []⟩ => ⟨state, []⟩
  | ⟨state, ⟨id, rest⟩ :: callers⟩ =>
    match rest with
    | .pure () => ⟨state, callers⟩
    | .get next => ⟨state, ⟨id, next state⟩ :: callers⟩
    | .set state next => ⟨state, ⟨id, next⟩ :: callers⟩
    | .call handler event next =>
      if handler.id ∈ id :: callers.map Activation.id then ⟨state, ⟨id, next false⟩ :: callers⟩
      else enter program handler event state (⟨id, next true⟩ :: callers)

def after (machine : Machine A σ) (steps : Nat) : Machine A σ := (step program)^[steps] machine

theorem after_succ (machine : Machine A σ) (steps : Nat) :
    machine.after program (steps + 1) = step program (machine.after program steps) :=
  Function.iterate_succ_apply' (step program) steps machine

theorem after_add (machine : Machine A σ) (steps more : Nat) :
    machine.after program (steps + more) = (machine.after program steps).after program more := by
  rw [Nat.add_comm]
  apply Function.iterate_add_apply

end Steps

/--
The handler `id` has been entered on top of `callers` and has not been left yet.
-/
def IsAbove (id : HandlerId) (callers : List (Activation A σ)) (machine : Machine A σ) : Prop :=
  ∃ inner rest, machine.activations = inner ++ ⟨id, rest⟩ :: callers

/--
The machine comes to `last`, and it is within the handler `id` until then.
-/
def Reaches (program : A → Event → Program A σ Unit) (id : HandlerId)
    (callers : List (Activation A σ)) (machine last : Machine A σ) : Prop :=
  ∃ steps, machine.after program steps = last ∧
    ∀ k < steps, (machine.after program k).IsAbove id callers

section Reaching

variable {program : A → Event → Program A σ Unit} {machine middle last : Machine A σ} {state : σ}
  {id : HandlerId} {rest : Program A σ Unit} {callers : List (Activation A σ)}

theorem isAbove_of_top : IsAbove id callers ⟨state, ⟨id, rest⟩ :: callers⟩ := ⟨[], rest, rfl⟩

theorem IsAbove.of_inner {callee : HandlerId}
    (h : machine.IsAbove callee (⟨id, rest⟩ :: callers)) : machine.IsAbove id callers := by
  rcases h with ⟨inner, rest', heq⟩
  refine ⟨inner ++ [⟨callee, rest'⟩], rest, ?_⟩
  rw [heq, List.append_assoc]
  rfl

theorem Reaches.refl : Reaches program id callers machine machine :=
  ⟨0, rfl, fun _ hk => absurd hk (Nat.not_lt_zero _)⟩

theorem Reaches.trans (h : Reaches program id callers machine middle)
    (h' : Reaches program id callers middle last) : Reaches program id callers machine last := by
  rcases h with ⟨steps, rfl, habove⟩
  rcases h' with ⟨more, rfl, hmore⟩
  refine ⟨steps + more, after_add program machine steps more, ?_⟩
  intro k hk
  by_cases hfirst : k < steps
  · exact habove k hfirst
  · obtain ⟨k, rfl⟩ := Nat.exists_eq_add_of_le (Nat.le_of_not_lt hfirst)
    rw [after_add]
    exact hmore k (by omega)

theorem Reaches.head (h : Reaches program id callers
    (step program ⟨state, ⟨id, rest⟩ :: callers⟩) last) :
    Reaches program id callers ⟨state, ⟨id, rest⟩ :: callers⟩ last := by
  refine Reaches.trans ⟨1, rfl, ?_⟩ h
  intro k hk
  obtain rfl : k = 0 := Nat.lt_one_iff.mp hk
  exact isAbove_of_top

theorem Reaches.of_inner {callee : HandlerId}
    (h : Reaches program callee (⟨id, rest⟩ :: callers) machine last) :
    Reaches program id callers machine last := by
  rcases h with ⟨steps, hlast, habove⟩
  exact ⟨steps, hlast, fun k hk => (habove k hk).of_inner⟩

end Reaching

structure Guarded (inv : σ → Prop) (collection : List (Handler A)) (machine : Machine A σ) :
    Prop where
  turn : machine.turn.Guarded inv collection
  keeps : ∀ activation ∈ machine.activations, activation.rest.Keeps inv collection

variable {inv : σ → Prop} {collection : List (Handler A)} {interpreter : Interpreter A σ}
  {machine : Machine A σ} {state : σ} {id : HandlerId} {rest : Program A σ Unit}
  {callers : List (Activation A σ)}

theorem Guarded.head (h : Guarded inv collection ⟨state, ⟨id, rest⟩ :: callers⟩) :
    rest.Keeps inv collection :=
  h.keeps _ List.mem_cons_self

theorem Guarded.resume (h : Guarded inv collection ⟨state, ⟨id, rest⟩ :: callers⟩) {state' : σ}
    (hstate : inv state') {rest' : Program A σ Unit} (hrest : rest'.Keeps inv collection) :
    Guarded inv collection ⟨state', ⟨id, rest'⟩ :: callers⟩ where
  turn := h.turn.with_state hstate
  keeps := List.forall_mem_cons.mpr ⟨hrest, (List.forall_mem_cons.mp h.keeps).2⟩

theorem Guarded.leave (h : Guarded inv collection ⟨state, ⟨id, rest⟩ :: callers⟩) :
    Guarded inv collection ⟨state, callers⟩ where
  turn := ⟨h.turn.inv, (List.nodup_cons.mp h.turn.nodup).2, (List.cons_subset.mp h.turn.subset).2⟩
  keeps := (List.forall_mem_cons.mp h.keeps).2

theorem Guarded.enter (h : Guarded inv collection ⟨state, callers⟩)
    (hkeeps : interpreter.Keeps inv collection) {handler : Handler A}
    (hmem : handler ∈ collection) (hfree : handler.id ∉ callers.map Activation.id) (event : Event) :
    (Machine.enter interpreter.program handler event state callers).Guarded inv collection where
  turn := h.turn.enter hmem hfree
  keeps := List.forall_mem_cons.mpr ⟨hkeeps handler hmem event, h.keeps⟩

theorem Guarded.step (h : machine.Guarded inv collection)
    (hkeeps : interpreter.Keeps inv collection) :
    (machine.step interpreter.program).Guarded inv collection := by
  cases machine with
  | mk state activations =>
    cases activations with
    | nil => exact h
    | cons activation callers =>
      cases activation with
      | mk id rest =>
        cases rest with
        | pure result => exact h.leave
        | get next => exact h.resume h.turn.inv (h.head state h.turn.inv)
        | set state next => exact h.resume h.head.1 h.head.2
        | call handler event next =>
          unfold Machine.step
          dsimp only
          split
          · exact h.resume h.turn.inv (h.head.2 false)
          · next hfree =>
            have hresume := h.resume h.turn.inv (h.head.2 true)
            exact hresume.enter hkeeps h.head.1 hfree event

theorem Guarded.after (h : machine.Guarded inv collection)
    (hkeeps : interpreter.Keeps inv collection) (steps : Nat) :
    (machine.after interpreter.program steps).Guarded inv collection := by
  induction steps with
  | zero => exact h
  | succ steps ih =>
    rw [after_succ]
    exact ih.step hkeeps

/--
Every call by a handler that was entered on top of `callers` comes to an end, and it has the answer
that `call` gives.
-/
def CallsReturn (program : A → Event → Program A σ Unit) (inv : σ → Prop)
    (collection : List (Handler A)) (call : Handler A → Event → Turn σ → Bool × Turn σ)
    (id : HandlerId) (callers : List (Activation A σ)) : Prop :=
  let active := id :: callers.map Activation.id
  ∀ state handler event (next : Bool → Program A σ Unit),
    Guarded inv collection ⟨state, ⟨id, .call handler event next⟩ :: callers⟩ →
      ∃ ran state', inv state' ∧ call handler event ⟨state, active⟩ = (ran, ⟨state', active⟩) ∧
        Reaches program id callers ⟨state, ⟨id, .call handler event next⟩ :: callers⟩
          ⟨state', ⟨id, next ran⟩ :: callers⟩

theorem exec_reaches {program : A → Event → Program A σ Unit}
    {call : Handler A → Event → Turn σ → Bool × Turn σ}
    (hcalls : CallsReturn program inv collection call id callers)
    (h : Guarded inv collection ⟨state, ⟨id, rest⟩ :: callers⟩) :
    let active := id :: callers.map Activation.id
    ∃ state', inv state' ∧ rest.exec call ⟨state, active⟩ = ((), ⟨state', active⟩) ∧
      Reaches program id callers ⟨state, ⟨id, rest⟩ :: callers⟩ ⟨state', callers⟩ := by
  induction rest generalizing state with
  | pure result => exact ⟨state, h.turn.inv, rfl, .head .refl⟩
  | get next ih =>
    rcases ih state (h.resume h.turn.inv (h.head state h.turn.inv)) with ⟨state', hinv, heq, hreach⟩
    exact ⟨state', hinv, heq, hreach.head⟩
  | set state next ih =>
    rcases ih (h.resume h.head.1 h.head.2) with ⟨state', hinv, heq, hreach⟩
    exact ⟨state', hinv, heq, hreach.head⟩
  | call handler event next ih =>
    rcases hcalls state handler event next h with ⟨ran, state', hinv, heq, hreach⟩
    rcases ih ran (h.resume hinv (h.head.2 ran)) with ⟨last, hlast, hrest, hmore⟩
    refine ⟨last, hlast, ?_, hreach.trans hmore⟩
    unfold Program.exec
    rw [heq]
    exact hrest

theorem enter_reaches (hkeeps : interpreter.Keeps inv collection) {depth : Nat}
    (h : Guarded inv collection ⟨state, callers⟩) {handler : Handler A}
    (hmem : handler ∈ collection) (hfree : handler.id ∉ callers.map Activation.id) (event : Event)
    (hdepth : collection.length ≤ depth + callers.length) :
    let active := callers.map Activation.id
    ∃ state', inv state' ∧
      interpreter.callWithin depth handler event ⟨state, active⟩ = (true, ⟨state', active⟩) ∧
      Reaches interpreter.program handler.id callers
        (enter interpreter.program handler event state callers) ⟨state', callers⟩ := by
  induction depth generalizing state callers handler event with
  | zero =>
    -- there is a handler that is not active
    have hlt : (callers.map Activation.id).length < collection.length :=
      h.turn.length_lt hmem hfree
    rw [List.length_map] at hlt
    omega
  | succ depth ih =>
    have hentered := h.enter hkeeps hmem hfree event
    have hcalls : CallsReturn interpreter.program inv collection (interpreter.callWithin depth)
        handler.id callers := by
      intro state callee event next hcall
      by_cases hactive : callee.id ∈ handler.id :: callers.map Activation.id
      · refine ⟨false, state, hcall.turn.inv, Interpreter.callWithin_of_mem hactive depth event, ?_⟩
        apply Reaches.head
        unfold Machine.step
        dsimp only
        rw [if_pos hactive]
        exact .refl
      · have hresume := hcall.resume hcall.turn.inv (hcall.head.2 true)
        have hdepth' : collection.length ≤ depth + (callers.length + 1) := by omega
        rcases ih hresume hcall.head.1 hactive event hdepth' with ⟨state', hinv, heq, hreach⟩
        refine ⟨true, state', hinv, heq, .head ?_⟩
        unfold Machine.step
        dsimp only
        rw [if_neg hactive]
        exact hreach.of_inner
    rcases exec_reaches hcalls hentered with ⟨state', hinv, heq, hreach⟩
    refine ⟨state', hinv, ?_, hreach⟩
    have heq : (interpreter.program handler.code event).exec (interpreter.callWithin depth)
      ((Turn.mk state (callers.map Activation.id)).enter handler.id) = _ := heq
    rw [Interpreter.callWithin_succ hfree, heq]
    unfold Turn.leave
    dsimp only
    rw [List.erase_cons_head]

end Machine

end ViewMotion
