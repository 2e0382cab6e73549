/-!
This module contains what holds when an action has come to its end, with a result or with an error.
-/

namespace ViewMotion

variable {ε ε' σ α β : Type}

def Ends (action : EStateM ε σ α) (state : σ) (post : α → σ → Prop) (failed : ε → σ → Prop) :
    Prop :=
  match action state with
  | .ok result state => post result state
  | .error e state => failed e state

def Succeeds (action : EStateM ε σ α) (state : σ) (post : α → σ → Prop) : Prop :=
  Ends action state post fun _ _ => False

namespace Ends

variable {action : EStateM ε σ α} {state after : σ} {post post' : α → σ → Prop}
  {failed failed' : ε → σ → Prop}

theorem of_ok {result : α} (h : action state = .ok result after) (hpost : post result after) :
    Ends action state post failed := by
  unfold Ends
  rw [h]
  exact hpost

theorem of_error {e : ε} (h : action state = .error e after) (hfailed : failed e after) :
    Ends action state post failed := by
  unfold Ends
  rw [h]
  exact hfailed

theorem of_eq {result : α} (h : Ends action state post failed)
    (heq : action state = .ok result after) : post result after := by
  unfold Ends at h
  rw [heq] at h
  exact h

theorem of_eq_error {e : ε} (h : Ends action state post failed)
    (heq : action state = .error e after) : failed e after := by
  unfold Ends at h
  rw [heq] at h
  exact h

theorem mono (h : Ends action state post failed)
    (hpost : ∀ result after, post result after → post' result after)
    (hfailed : ∀ e after, failed e after → failed' e after) :
    Ends action state post' failed' := by
  unfold Ends at h ⊢
  split at h
  · next result after heq => exact hpost result after h
  · next e after heq => exact hfailed e after h

theorem of_apply_eq {action' : EStateM ε σ α} {state' : σ} (heq : action state = action' state')
    (h : Ends action' state' post failed) : Ends action state post failed := by
  unfold Ends
  rw [heq]
  exact h

theorem and (h : Ends action state post failed) (h' : Ends action state post' failed') :
    Ends action state (fun result after => post result after ∧ post' result after)
      fun e after => failed e after ∧ failed' e after := by
  unfold Ends at *
  cases haction : action state with
  | ok result after =>
    rw [haction] at h h'
    exact ⟨h, h'⟩
  | error e after =>
    rw [haction] at h h'
    exact ⟨h, h'⟩

theorem of_forall (hpost : ∀ result after, post result after)
    (hfailed : ∀ e after, failed e after) : Ends action state post failed := by
  unfold Ends
  split
  · exact hpost _ _
  · exact hfailed _ _

theorem bind {next : α → EStateM ε σ β} {post : β → σ → Prop}
    (h : Ends action state (fun result after => Ends (next result) after post failed) failed) :
    Ends (action >>= next) state post failed := by
  change Ends (EStateM.bind action next) state post failed
  unfold Ends EStateM.bind at *
  cases haction : action state with
  | ok result after =>
    rw [haction] at h
    exact h
  | error e after =>
    rw [haction] at h
    exact h

theorem bind_ok {result : α} {next : α → EStateM ε σ β} {post : β → σ → Prop}
    (haction : action state = .ok result after) (h : Ends (next result) after post failed) :
    Ends (action >>= next) state post failed :=
  bind (of_ok haction h)

theorem bind_eq_of_ok {result : α} (haction : action state = .ok result after)
    (next : α → EStateM ε σ β) : (action >>= next) state = next result after := by
  change EStateM.bind action next state = _
  unfold EStateM.bind
  rw [haction]

theorem bind_eq_of_error {e : ε} (haction : action state = .error e after)
    (next : α → EStateM ε σ β) : (action >>= next) state = .error e after := by
  change EStateM.bind action next state = _
  unfold EStateM.bind
  rw [haction]

theorem get_bind_eq (next : σ → EStateM ε σ α) (state : σ) :
    (get >>= next) state = next state state := rfl

theorem get_bind {next : σ → EStateM ε σ α} (h : Ends (next state) state post failed) :
    Ends (get >>= next) state post failed := by
  apply bind
  exact h

theorem modify_bind {f : σ → σ} {next : Unit → EStateM ε σ α}
    (h : Ends (next ()) (f state) post failed) : Ends (modify f >>= next) state post failed := by
  apply bind
  exact h

theorem modifyGet_bind {f : σ → α × σ} {next : α → EStateM ε σ β} {post : β → σ → Prop}
    (h : Ends (next (f state).1) (f state).2 post failed) :
    Ends (modifyGet f >>= next) state post failed := by
  apply bind
  exact h

theorem forM_cons {β : Type} {action : β → EStateM ε σ PUnit} {x : β} {xs : List β}
    {post : PUnit → σ → Prop}
    (h : Ends (action x) state (fun _ after => Ends (xs.forM action) after post failed) failed) :
    Ends ((x :: xs).forM action) state post failed := by
  change Ends (action x >>= fun _ => xs.forM action) state post failed
  exact bind h

theorem pure {result : α} (h : post result state) :
    Ends (pure result : EStateM ε σ α) state post failed :=
  h

theorem discard {post : σ → Prop} (h : Ends action state (fun _ => post) failed) :
    Ends (discard action) state (fun _ => post) failed := by
  change Ends (EStateM.map _ action) state _ _
  unfold Ends EStateM.map at *
  cases haction : action state with
  | ok result after =>
    rw [haction] at h
    exact h
  | error e after =>
    rw [haction] at h
    exact h

theorem adaptExcept {f : ε → ε'} {failed : ε' → σ → Prop}
    (h : Ends action state post fun e after => failed (f e) after) :
    Ends (EStateM.adaptExcept f action) state post failed := by
  unfold Ends EStateM.adaptExcept at *
  cases haction : action state with
  | ok result after =>
    rw [haction] at h
    exact h
  | error e after =>
    rw [haction] at h
    exact h

end Ends

namespace Succeeds

variable {action : EStateM ε σ α} {state after : σ} {post post' : α → σ → Prop}

theorem of_ok {result : α} (h : action state = .ok result after) (hpost : post result after) :
    Succeeds action state post :=
  Ends.of_ok h hpost

theorem mono (h : Succeeds action state post)
    (hpost : ∀ result after, post result after → post' result after) :
    Succeeds action state post' :=
  Ends.mono h hpost fun _ _ hfalse => hfalse

theorem ends {failed : ε → σ → Prop} (h : Succeeds action state post) :
    Ends action state post failed :=
  Ends.mono h (fun _ _ hpost => hpost) fun _ _ hfalse => hfalse.elim

theorem bind_ends {next : α → EStateM ε σ β} {final : β → σ → Prop} {failed : ε → σ → Prop}
    (h : Succeeds action state post)
    (hnext : ∀ result after, post result after → Ends (next result) after final failed) :
    Ends (action >>= next) state final failed :=
  Ends.bind (Ends.mono h hnext fun _ _ hfalse => hfalse.elim)

theorem adaptExcept (h : Succeeds action state post) (f : ε → ε') :
    Succeeds (EStateM.adaptExcept f action) state post :=
  Ends.adaptExcept h

end Succeeds

/--
Once more, the action would end in the same way and leave everything as it is.
-/
def Repeats (action : EStateM ε σ α) (state : σ) : Prop :=
  Ends action state (fun result after => action after = .ok result after)
    fun e after => action after = .error e after

/--
Wherever the action ends, that is related to where it has begun.
-/
def Along (related : σ → σ → Prop) (action : EStateM ε σ α) : Prop :=
  ∀ state, Ends action state (fun _ after => related state after) fun _ after => related state after

section Relating

variable {related : σ → σ → Prop}

section Reflexive

variable (hrefl : ∀ state, related state state)

include hrefl

theorem along_pure (result : α) : Along related (pure result : EStateM ε σ α) :=
  fun state => Ends.pure (hrefl state)

theorem along_throw (e : ε) : Along related (throw e : EStateM ε σ α) :=
  fun state => hrefl state

theorem along_get : Along related (get : EStateM ε σ σ) :=
  fun state => hrefl state

end Reflexive

theorem along_modifyGet {f : σ → α × σ} (h : ∀ state, related state (f state).2) :
    Along related (modifyGet f : EStateM ε σ α) :=
  h

theorem along_modify {f : σ → σ} (h : ∀ state, related state (f state)) :
    Along related (modify f : EStateM ε σ PUnit) :=
  h

theorem Along.bind {action : EStateM ε σ α} {next : α → EStateM ε σ β}
    (h : Along related action) (hnext : ∀ result, Along related (next result))
    (htrans : ∀ state middle after, related state middle → related middle after →
      related state after) : Along related (action >>= next) := by
  intro state
  apply Ends.bind
  apply (h state).mono
  · intro result middle hmiddle
    apply (hnext result middle).mono
    · exact fun _ after hafter => htrans state middle after hmiddle hafter
    · exact fun _ after hafter => htrans state middle after hmiddle hafter
  · exact fun _ after hafter => hafter

theorem Along.forM {action : β → EStateM ε σ PUnit} (xs : List β)
    (h : ∀ x, Along related (action x)) (hrefl : ∀ state, related state state)
    (htrans : ∀ state middle after, related state middle → related middle after →
      related state after) : Along related (xs.forM action) := by
  induction xs with
  | nil => exact along_pure hrefl _
  | cons x xs ih => exact (h x).bind (fun _ => ih) htrans

theorem Along.discard {action : EStateM ε σ α} (h : Along related action) :
    Along related (discard action) :=
  fun state => (h state).discard

theorem Along.adaptExcept {action : EStateM ε σ α} (h : Along related action) (f : ε → ε') :
    Along related (EStateM.adaptExcept f action) := by
  intro state
  apply Ends.adaptExcept
  exact h state

theorem Along.mono {related' : σ → σ → Prop} {action : EStateM ε σ α}
    (h : Along related action) (hrelated : ∀ state after, related state after →
      related' state after) : Along related' action :=
  fun state => (h state).mono (fun _ => hrelated state) fun _ => hrelated state

end Relating

end ViewMotion
