import ViewMotion.Handler.Table

/-!
This module contains what handlers do, and the lock that keeps a handler from running inside
itself.

A `Program` is a finite piece of work on a state, in the course of which handlers may be called. An
`Interpreter` says which program the code of a handler stands for.
-/

namespace ViewMotion

inductive Program (A σ α : Type) where
  | pure (result : α)
  | get (next : σ → Program A σ α)
  | set (state : σ) (next : Program A σ α)
  | call (handler : Handler A) (event : Event) (next : Bool → Program A σ α)

/--
A state, and the handlers whose programs are under way in it, the innermost one first.
-/
structure Turn (σ : Type) where
  state : σ
  active : List HandlerId
deriving Repr

variable {A σ α β : Type}

namespace Turn

def enter (turn : Turn σ) (id : HandlerId) : Turn σ := { turn with active := id :: turn.active }

def leave (turn : Turn σ) (id : HandlerId) : Turn σ := { turn with active := turn.active.erase id }

end Turn

namespace Program

def bind (program : Program A σ α) (f : α → Program A σ β) : Program A σ β :=
  match program with
  | .pure result => f result
  | get next => get fun state => (next state).bind f
  | set state next => set state (next.bind f)
  | call handler event next => call handler event fun ran => (next ran).bind f

instance : Monad (Program A σ) where
  pure := .pure
  bind := bind

def step (f : σ → α × σ) : Program A σ α :=
  get fun state =>
    let (result, state) := f state
    set state (.pure result)

def attempt {ε : Type} (action : EStateM ε σ α) : Program A σ (Except ε α) :=
  step fun state =>
    match action state with
    | .ok result state => (.ok result, state)
    | .error e state => (.error e, state)

def exec (call : Handler A → Event → Turn σ → Bool × Turn σ) :
    Program A σ α → Turn σ → α × Turn σ
  | .pure result, turn => (result, turn)
  | .get next, turn => (next turn.state).exec call turn
  | .set state next, turn => next.exec call { turn with state }
  | .call handler event next, turn =>
    let (ran, turn) := call handler event turn
    (next ran).exec call turn

theorem exec_bind (call : Handler A → Event → Turn σ → Bool × Turn σ) (program : Program A σ α)
    (f : α → Program A σ β) (turn : Turn σ) :
    (program.bind f).exec call turn =
      (f (program.exec call turn).1).exec call (program.exec call turn).2 := by
  induction program generalizing turn with
  | pure result => rfl
  | get next ih => apply ih
  | set state next ih => apply ih
  | call handler event next ih => apply ih

end Program

/--
No more than `depth` handlers run inside each other. Since a handler never runs inside itself, this
is no restriction on a collection of that many handlers.
-/
structure Interpreter (A σ : Type) where
  program : A → Event → Program A σ Unit
  depth : Nat

namespace Interpreter

def callWithin (interpreter : Interpreter A σ) :
    (depth : Nat) → Handler A → Event → Turn σ → Bool × Turn σ
  | 0, _, _, turn => (false, turn)
  | depth + 1, handler, event, turn =>
    if turn.active.contains handler.id then (false, turn)
    else
      let program := interpreter.program handler.code event
      let (_, turn) := program.exec (interpreter.callWithin depth) (turn.enter handler.id)
      (true, turn.leave handler.id)

def call (interpreter : Interpreter A σ) (handler : Handler A) (event : Event) (turn : Turn σ) :
    Bool × Turn σ :=
  interpreter.callWithin interpreter.depth handler event turn

def run (interpreter : Interpreter A σ) (program : Program A σ α) (state : σ) : α × σ :=
  let (result, turn) := program.exec interpreter.call ⟨state, []⟩
  (result, turn.state)

end Interpreter

end ViewMotion
