import ViewMotion.Clock.Manual
import ViewMotion.Proofs.ExactScalar
import ViewMotion.Proofs.Handler.Machine
import ViewMotion.Scene

/-!
This module contains the outermost calls of handlers, whether they are called themselves or looked
up in the table of a scene: no handler ever runs inside itself, and all of them come to an end.
-/

namespace ViewMotion

variable {A σ : Type} {inv : σ → Prop} {collection : List (Handler A)}
  {interpreter : Interpreter A σ}

/--
What the lock ensures at any moment, and for the call that comes next at that moment.
-/
structure Machine.Locked (interpreter : Interpreter A σ) (collection : List (Handler A))
    (now : Machine A σ) : Prop where
  nodup : now.active.Nodup
  subset : now.active ⊆ collection.map Handler.id
  length_le : now.active.length ≤ collection.length
  refuses (id : HandlerId) (handler : Handler A) (event : Event) (next : Bool → Program A σ Unit)
    (callers : List (Activation A σ)) :
    now.activations = ⟨id, .call handler event next⟩ :: callers → handler.id ∈ now.active →
      now.step interpreter.program = ⟨now.state, ⟨id, next false⟩ :: callers⟩ ∧
        interpreter.call handler event now.turn = (false, now.turn)
  runs (id : HandlerId) (handler : Handler A) (event : Event) (next : Bool → Program A σ Unit)
    (callers : List (Activation A σ)) :
    now.activations = ⟨id, .call handler event next⟩ :: callers → handler.id ∉ now.active →
      now.step interpreter.program =
          enter interpreter.program handler event now.state (⟨id, next true⟩ :: callers) ∧
        ∃ last,
          Reaches interpreter.program handler.id (⟨id, next true⟩ :: callers)
            (now.step interpreter.program) ⟨last, ⟨id, next true⟩ :: callers⟩ ∧
          interpreter.call handler event now.turn = (true, ⟨last, now.active⟩)

theorem Machine.Guarded.locked {now : Machine A σ} (h : now.Guarded inv collection)
    (hkeeps : interpreter.Keeps inv collection) (hdepth : collection.length ≤ interpreter.depth) :
    now.Locked interpreter collection where
  nodup := h.turn.nodup
  subset := h.turn.subset
  length_le := h.turn.length_le
  refuses id handler event next callers hcall hactive := by
    refine ⟨?_, Interpreter.callWithin_of_mem hactive interpreter.depth event⟩
    cases now with
    | mk state activations =>
      have hcall : activations = _ := hcall
      subst hcall
      exact if_pos hactive
  runs id handler event next callers hcall hfree := by
    cases now with
    | mk state activations =>
      have hcall : activations = _ := hcall
      subst hcall
      have hstep :
          Machine.step interpreter.program ⟨state, ⟨id, .call handler event next⟩ :: callers⟩ =
            Machine.enter interpreter.program handler event state (⟨id, next true⟩ :: callers) :=
        if_neg hfree
      have hresume := h.resume h.turn.inv (h.head.2 true)
      have hdepth : collection.length ≤ interpreter.depth + (callers.length + 1) := by omega
      rcases enter_reaches hkeeps hresume h.head.1 hfree event hdepth with
        ⟨last, -, heq, hreach⟩
      exact ⟨hstep, last, hstep ▸ hreach, heq⟩

namespace Interpreter

/--
An outermost call of the handler takes the state to `last`.
-/
structure Outermost (interpreter : Interpreter A σ) (collection : List (Handler A))
    (handler : Handler A) (event : Event) (state last : σ) : Prop where
  locked (steps : Nat) :
    ((Machine.enter interpreter.program handler event state []).after interpreter.program
      steps).Locked interpreter collection
  reaches :
    Machine.Reaches interpreter.program handler.id []
      (Machine.enter interpreter.program handler event state []) ⟨last, []⟩
  call_eq : interpreter.call handler event ⟨state, []⟩ = (true, ⟨last, []⟩)

theorem exists_outermost (hkeeps : interpreter.Keeps inv collection)
    (hdepth : collection.length ≤ interpreter.depth) {handler : Handler A}
    (hmem : handler ∈ collection) (event : Event) {state : σ} (hstate : inv state) :
    ∃ last, interpreter.Outermost collection handler event state last := by
  have hidle : Machine.Guarded inv collection ⟨state, []⟩ :=
    ⟨⟨hstate, List.nodup_nil, List.nil_subset _⟩, fun _ h => absurd h List.not_mem_nil⟩
  have hstart := hidle.enter hkeeps hmem List.not_mem_nil event
  rcases Machine.enter_reaches hkeeps hidle hmem List.not_mem_nil event hdepth with
    ⟨last, -, heq, hreach⟩
  exact ⟨last, fun steps => (hstart.after hkeeps steps).locked hkeeps hdepth, hreach, heq⟩

end Interpreter

namespace HandlerTable

def Registers (collection : List (Handler A)) (table : HandlerTable A) : Prop :=
  ∀ {source kind handler}, table.find? source kind = some handler → handler ∈ collection

theorem registers_empty : (∅ : HandlerTable A).Registers collection := by
  intro source kind handler hfind
  change (∅ : Std.ExtTreeMap EventKey (Handler A))[_]? = some handler at hfind
  rw [Std.ExtTreeMap.getElem?_empty] at hfind
  contradiction

theorem Registers.insert {table : HandlerTable A} (h : table.Registers collection)
    {handler : Handler A} (hmem : handler ∈ collection) (source : ViewId) (kind : EventKind) :
    (table.insert source kind handler).Registers collection := by
  intro s k found hfind
  rw [insert_find?] at hfind
  split at hfind
  · injection hfind with heq
    exact heq ▸ hmem
  · exact h hfind

end HandlerTable

namespace Scene

variable {K T X : Type} {inv : Scene K T A X → Prop}

theorem dispatch_keeps (h : ∀ scene, inv scene → scene.handlers.Registers collection)
    (event : Event) :
    (dispatch event : Program A (Scene K T A X) Bool).Keeps inv collection := by
  intro scene hscene
  dsimp only
  split
  · trivial
  · next handler hfind => exact ⟨h scene hscene hfind, fun _ => trivial⟩

variable {interpreter : Interpreter A (Scene K T A X)} {event : Event} {scene : Scene K T A X}

theorem run_dispatch_of_none (h : scene.handlers.find? event.source event.kind = none) :
    interpreter.run (dispatch event) scene = (false, scene) := by
  unfold Interpreter.run dispatch Program.exec
  dsimp only
  rw [h]
  rfl

theorem run_dispatch_of_some {handler : Handler A}
    (h : scene.handlers.find? event.source event.kind = some handler) :
    interpreter.run (dispatch event) scene =
      ((interpreter.call handler event ⟨scene, []⟩).1,
        (interpreter.call handler event ⟨scene, []⟩).2.state) := by
  unfold Interpreter.run dispatch Program.exec
  dsimp only
  rw [h]
  rfl

end Scene

theorem Interpreter.calls_return :
    (∀ {A σ : Type} {inv : σ → Prop} {collection : List (Handler A)}
      {interpreter : Interpreter A σ}, interpreter.Keeps inv collection →
      collection.length ≤ interpreter.depth → ∀ handler ∈ collection, ∀ event,
        (∀ turn : Turn σ, turn.Guarded inv collection →
          interpreter.call handler event turn =
            if handler.id ∈ turn.active then (false, turn)
            else
              (true, ((interpreter.program handler.code event).exec interpreter.call
                (turn.enter handler.id)).2.leave handler.id)) ∧
        ∀ state, inv state →
          ∃ last, interpreter.Outermost collection handler event state last) ∧
      ∀ {K T A X : Type} {inv : Scene K T A X → Prop} {collection : List (Handler A)}
        {interpreter : Interpreter A (Scene K T A X)}, interpreter.Keeps inv collection →
        collection.length ≤ interpreter.depth →
        (∀ scene, inv scene → scene.handlers.Registers collection) → ∀ event scene, inv scene →
          match scene.handlers.find? event.source event.kind with
          | none => interpreter.run (Scene.dispatch event) scene = (false, scene)
          | some handler =>
            ∃ last, interpreter.Outermost collection handler event scene last ∧
              interpreter.run (Scene.dispatch event) scene = (true, last) := by
  constructor
  · intro A σ inv collection interpreter hkeeps hdepth handler hmem event
    constructor
    · exact fun turn hturn => call_eq hkeeps hdepth hmem event hturn
    · exact fun state hstate => exists_outermost hkeeps hdepth hmem event hstate
  · intro K T A X inv collection interpreter hkeeps hdepth hregisters event scene hscene
    split
    · next hnone => apply Scene.run_dispatch_of_none hnone
    · next handler hfind =>
      have hmem := hregisters scene hscene hfind
      rcases exists_outermost hkeeps hdepth hmem event hscene with ⟨last, hlast⟩
      refine ⟨last, hlast, ?_⟩
      rw [Scene.run_dispatch_of_some hfind, hlast.call_eq]

theorem Interpreter.calls_return_mutual :
    let first : Handler Bool := ⟨⟨0⟩, false⟩
    let second : Handler Bool := ⟨⟨1⟩, true⟩
    let pressed (v : ViewId) : Event := { source := v, kind := .pressed }
    let interpreter : Interpreter Bool (Scene Rat ManualClock Bool (List Bool)) := {
      program code _ := do
        let ran ← Scene.dispatch (pressed (if code then ⟨2⟩ else ⟨1⟩))
        Program.step fun scene => ((), { scene with store := scene.store ++ [ran] })
      depth := 2
    }
    let table : HandlerTable Bool := ∅
    let scene := {
      (Scene.new .counted .atEpoch {} [] : Scene Rat ManualClock Bool (List Bool)) with
      handlers := ((table.insert ⟨0⟩ .pressed first).insert ⟨1⟩ .pressed second).insert ⟨2⟩
        .pressed first
    }
    ∃ last, interpreter.Outermost [first, second] first (pressed ⟨0⟩) scene last ∧
      last.store = [false, true] := by
  intro first second pressed interpreter table scene
  have hscene : scene.handlers.Registers [first, second] := by
    apply HandlerTable.Registers.insert _ (by simp)
    apply HandlerTable.Registers.insert _ (by simp)
    apply HandlerTable.Registers.insert _ (by simp)
    apply HandlerTable.registers_empty
  have hkeeps : interpreter.Keeps (fun scene => scene.handlers.Registers [first, second])
      [first, second] := by
    intro handler _ event
    apply Program.Keeps.bind
    · exact Scene.dispatch_keeps (fun scene hscene => hscene) _
    · exact fun ran => Program.keeps_step fun scene hscene => hscene
  have hfind : scene.handlers.find? (pressed ⟨0⟩).source (pressed ⟨0⟩).kind = some first := by
    simp only [scene, HandlerTable.insert_find?]
    rfl
  have hdispatch := calls_return.2 hkeeps (Nat.le_refl 2) (fun scene hscene => hscene)
    (pressed ⟨0⟩) scene hscene
  rw [hfind] at hdispatch
  rcases hdispatch with ⟨last, hlast, hrun⟩
  refine ⟨last, hlast, ?_⟩
  have hstore : (interpreter.run (Scene.dispatch (pressed ⟨0⟩)) scene).2.store = [false, true] := by
    decide +kernel
  rw [hrun] at hstore
  exact hstore

end ViewMotion
