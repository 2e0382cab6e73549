import Mathlib.Data.List.Perm.Subperm
import ViewMotion.Handler.Program

/-!
This module contains what the lock of the handlers comes to for a collection of handlers that call
nobody but each other. The depth of an interpreter is no restriction to them once it is the size of
the collection.
-/

namespace ViewMotion

variable {A σ α : Type} {inv : σ → Prop} {collection : List (Handler A)}

/--
Keeps the invariant of the state, and calls nobody outside the collection as long as it holds.
-/
def Program.Keeps (inv : σ → Prop) (collection : List (Handler A)) : Program A σ α → Prop
  | .pure _ => True
  | .get next => ∀ state, inv state → (next state).Keeps inv collection
  | .set state next => inv state ∧ next.Keeps inv collection
  | .call handler _ next => handler ∈ collection ∧ ∀ ran, (next ran).Keeps inv collection

def Interpreter.Keeps (interpreter : Interpreter A σ) (inv : σ → Prop)
    (collection : List (Handler A)) : Prop :=
  ∀ handler ∈ collection, ∀ event, (interpreter.program handler.code event).Keeps inv collection

namespace Program

theorem Keeps.bind {β : Type} {program : Program A σ α} {f : α → Program A σ β}
    (h : program.Keeps inv collection) (hf : ∀ result, (f result).Keeps inv collection) :
    (program.bind f).Keeps inv collection := by
  induction program with
  | pure result => exact hf result
  | get next ih => exact fun state hstate => ih state (h state hstate)
  | set state next ih => exact ⟨h.1, ih h.2⟩
  | call handler event next ih => exact ⟨h.1, fun ran => ih ran (h.2 ran)⟩

theorem keeps_step {f : σ → α × σ} (h : ∀ state, inv state → inv (f state).2) :
    (step f : Program A σ α).Keeps inv collection :=
  fun state hstate => ⟨h state hstate, trivial⟩

end Program

namespace Turn

structure Guarded (inv : σ → Prop) (collection : List (Handler A)) (turn : Turn σ) : Prop where
  inv : inv turn.state
  nodup : turn.active.Nodup
  subset : turn.active ⊆ collection.map Handler.id

variable {turn : Turn σ}

theorem Guarded.length_le (h : turn.Guarded inv collection) :
    turn.active.length ≤ collection.length := by
  rw [← List.length_map Handler.id]
  exact (h.nodup.subperm h.subset).length_le

theorem Guarded.enter (h : turn.Guarded inv collection) {handler : Handler A}
    (hmem : handler ∈ collection) (hfree : handler.id ∉ turn.active) :
    (turn.enter handler.id).Guarded inv collection where
  inv := h.inv
  nodup := List.nodup_cons.mpr ⟨hfree, h.nodup⟩
  subset := List.cons_subset.mpr ⟨List.mem_map_of_mem hmem, h.subset⟩

theorem Guarded.with_state (h : turn.Guarded inv collection) {state : σ} (hstate : inv state) :
    Guarded inv collection ⟨state, turn.active⟩ where
  inv := hstate
  nodup := h.nodup
  subset := h.subset

theorem Guarded.length_lt (h : turn.Guarded inv collection) {handler : Handler A}
    (hmem : handler ∈ collection) (hfree : handler.id ∉ turn.active) :
    turn.active.length < collection.length :=
  (h.enter hmem hfree).length_le

end Turn

structure KeepsCalls (inv : σ → Prop) (collection : List (Handler A))
    (call : Handler A → Event → Turn σ → Bool × Turn σ) : Prop where
  active (handler : Handler A) (event : Event) (turn : Turn σ) :
    (call handler event turn).2.active = turn.active
  inv (handler : Handler A) (event : Event) (turn : Turn σ) :
    handler ∈ collection → inv turn.state → inv (call handler event turn).2.state

namespace KeepsCalls

variable {call call' : Handler A → Event → Turn σ → Bool × Turn σ} {program : Program A σ α}

theorem exec_active (h : KeepsCalls inv collection call) (turn : Turn σ) :
    (program.exec call turn).2.active = turn.active := by
  induction program generalizing turn with
  | pure result => rfl
  | get next ih => apply ih
  | set state next ih => apply ih
  | call handler event next ih =>
    rw [← h.active handler event turn]
    apply ih

theorem exec_inv (h : KeepsCalls inv collection call) (hprogram : program.Keeps inv collection)
    {turn : Turn σ} (hinv : inv turn.state) : inv (program.exec call turn).2.state := by
  induction program generalizing turn with
  | pure result => exact hinv
  | get next ih => exact ih _ (hprogram _ hinv) hinv
  | set state next ih => exact ih hprogram.2 hprogram.1
  | call handler event next ih =>
    exact ih _ (hprogram.2 _) (h.inv handler event turn hprogram.1 hinv)

theorem exec_congr (h : KeepsCalls inv collection call) (hprogram : program.Keeps inv collection)
    {turn : Turn σ} (hinv : inv turn.state)
    (heq : ∀ handler ∈ collection, ∀ event state, inv state →
      call handler event ⟨state, turn.active⟩ = call' handler event ⟨state, turn.active⟩) :
    program.exec call turn = program.exec call' turn := by
  induction program generalizing turn with
  | pure result => rfl
  | get next ih => exact ih _ (hprogram _ hinv) hinv heq
  | set state next ih => exact ih hprogram.2 hprogram.1 heq
  | call handler event next ih =>
    unfold Program.exec
    rw [← heq handler hprogram.1 event turn.state hinv]
    apply ih _ (hprogram.2 _) (h.inv handler event turn hprogram.1 hinv)
    rw [h.active]
    exact heq

end KeepsCalls

namespace Interpreter

variable {interpreter : Interpreter A σ}

theorem callWithin_of_mem {handler : Handler A} {turn : Turn σ} (h : handler.id ∈ turn.active)
    (depth : Nat) (event : Event) :
    interpreter.callWithin depth handler event turn = (false, turn) := by
  cases depth with
  | zero => rfl
  | succ depth =>
    unfold callWithin
    rw [if_pos (List.contains_iff_mem.mpr h)]

theorem callWithin_succ {handler : Handler A} {turn : Turn σ} (h : handler.id ∉ turn.active)
    (depth : Nat) (event : Event) :
    interpreter.callWithin (depth + 1) handler event turn =
      (true, ((interpreter.program handler.code event).exec (interpreter.callWithin depth)
        (turn.enter handler.id)).2.leave handler.id) := by
  rw [← List.contains_iff_mem] at h
  conv => lhs; unfold callWithin
  rw [if_neg h]

theorem callWithin_keeps (h : interpreter.Keeps inv collection) (depth : Nat) :
    KeepsCalls inv collection (interpreter.callWithin depth) := by
  induction depth with
  | zero => exact ⟨fun _ _ _ => rfl, fun _ _ _ _ hinv => hinv⟩
  | succ depth ih =>
    constructor
    case active =>
      intro handler event turn
      by_cases hactive : handler.id ∈ turn.active
      · rw [callWithin_of_mem hactive]
      · rw [callWithin_succ hactive]
        unfold Turn.leave
        rw [ih.exec_active]
        apply List.erase_cons_head
    case inv =>
      intro handler event turn hmem hinv
      by_cases hactive : handler.id ∈ turn.active
      · rw [callWithin_of_mem hactive]
        exact hinv
      · rw [callWithin_succ hactive]
        exact ih.exec_inv (h handler hmem event) hinv

theorem callWithin_congr (h : interpreter.Keeps inv collection) {handler : Handler A}
    (hmem : handler ∈ collection) (event : Event) {turn : Turn σ}
    (hturn : turn.Guarded inv collection) {depth depth' : Nat}
    (hdepth : collection.length ≤ depth + turn.active.length)
    (hdepth' : collection.length ≤ depth' + turn.active.length) :
    interpreter.callWithin depth handler event turn =
      interpreter.callWithin depth' handler event turn := by
  induction depth generalizing depth' handler event turn with
  | zero =>
    -- all handlers of the collection are active
    have hactive : handler.id ∈ turn.active := by
      by_contra hfree
      have hlt := hturn.length_lt hmem hfree
      omega
    rw [callWithin_of_mem hactive, callWithin_of_mem hactive]
  | succ depth ih =>
    by_cases hactive : handler.id ∈ turn.active
    · rw [callWithin_of_mem hactive, callWithin_of_mem hactive]
    · have hlt := hturn.length_lt hmem hactive
      have henter := hturn.enter hmem hactive
      cases depth' with
      | zero => omega
      | succ depth' =>
        rw [callWithin_succ hactive, callWithin_succ hactive]
        rw [(callWithin_keeps h depth).exec_congr (h handler hmem event) henter.inv]
        intro callee hcallee event state hstate
        have hlength : (turn.enter handler.id).active.length = turn.active.length + 1 := rfl
        apply ih hcallee event (henter.with_state hstate)
        · dsimp only
          omega
        · dsimp only
          omega

theorem call_eq (h : interpreter.Keeps inv collection)
    (hdepth : collection.length ≤ interpreter.depth) {handler : Handler A}
    (hmem : handler ∈ collection) (event : Event) {turn : Turn σ}
    (hturn : turn.Guarded inv collection) :
    interpreter.call handler event turn =
      if handler.id ∈ turn.active then (false, turn)
      else
        (true, ((interpreter.program handler.code event).exec interpreter.call
          (turn.enter handler.id)).2.leave handler.id) := by
  split
  · next hactive => apply callWithin_of_mem hactive
  · next hactive =>
    have henter := hturn.enter hmem hactive
    have hlength : (turn.enter handler.id).active.length = turn.active.length + 1 := rfl
    have hmore : interpreter.call handler event turn =
        interpreter.callWithin (interpreter.depth + 1) handler event turn := by
      apply callWithin_congr h hmem event hturn <;> omega
    rw [hmore, callWithin_succ hactive]
    rfl

end Interpreter

end ViewMotion
