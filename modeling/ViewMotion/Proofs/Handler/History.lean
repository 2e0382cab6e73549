import ViewMotion.Handler.Table

/-!
This module contains what a table of handlers holds after any requests to it. For each view and kind
of event it is the handler that was inserted last, unless a later request has taken it out again.
-/

namespace ViewMotion

variable {A : Type}

namespace EventKey

def Precedes (a b : EventKey) : Prop :=
  a.source.number < b.source.number ∨ a.source = b.source ∧ a.kind.rank < b.kind.rank

theorem compare_eq_lt_iff (a b : EventKey) : compare a b = .lt ↔ a.Precedes b := by
  have hnumber : compare a.source b.source = .lt ↔ a.source.number < b.source.number :=
    Nat.compare_eq_lt
  rw [compare_def, Ordering.then_eq_lt, hnumber, Std.LawfulEqOrd.compare_eq_iff_eq,
    Nat.compare_eq_lt]
  rfl

end EventKey

inductive TableRequest (A : Type) where
  | insert (source : ViewId) (kind : EventKind) (handler : Handler A)
  | erase (source : ViewId) (kind : EventKind)
  | eraseView (view : ViewId)

def TableRequest.Concerns (source : ViewId) (kind : EventKind) : TableRequest A → Prop
  | .insert s k _ | .erase s k => s = source ∧ k = kind
  | .eraseView view => view = source

namespace HandlerTable

def perform (table : HandlerTable A) : TableRequest A → HandlerTable A
  | .insert source kind handler => table.insert source kind handler
  | .erase source kind => (table.erase source kind).2
  | .eraseView view => table.eraseView view

def run (table : HandlerTable A) (requests : List (TableRequest A)) : HandlerTable A :=
  requests.foldl perform table

/--
The handler was the last to be inserted there, and nothing has been taken out there since.
-/
def Stands (requests : List (TableRequest A)) (source : ViewId) (kind : EventKind)
    (handler : Handler A) : Prop :=
  ∃ earlier later, requests = earlier ++ .insert source kind handler :: later ∧
    ∀ request ∈ later, ¬ request.Concerns source kind

variable {source : ViewId} {kind : EventKind} {handler : Handler A}

theorem perform_find?_eq_some_iff (table : HandlerTable A) (request : TableRequest A) :
    (table.perform request).find? source kind = some handler ↔
      request = .insert source kind handler ∨
        ¬ request.Concerns source kind ∧ table.find? source kind = some handler := by
  cases request with
  | insert s k inserted =>
    simp only [perform, insert_find?, TableRequest.Concerns, TableRequest.insert.injEq]
    split
    · next h => simp [h]
    · next h =>
      have hother : ¬ (s = source ∧ k = kind ∧ inserted = handler) := fun heq => h ⟨heq.1, heq.2.1⟩
      simp [h, hother]
  | erase s k =>
    simp only [perform, erase_find?, TableRequest.Concerns, reduceCtorEq, false_or]
    split <;> simp_all
  | eraseView view =>
    simp only [perform, eraseView_find?, TableRequest.Concerns, reduceCtorEq, false_or,
      eq_comm (a := view)]
    split <;> simp_all

theorem stands_cons (request : TableRequest A) (requests : List (TableRequest A)) :
    Stands (request :: requests) source kind handler ↔
      Stands requests source kind handler ∨ request = .insert source kind handler ∧
        ∀ later ∈ requests, ¬ later.Concerns source kind := by
  constructor
  · intro ⟨earlier, later, heq, hlater⟩
    cases earlier with
    | nil =>
      injection heq with hrequest hrequests
      exact Or.inr ⟨hrequest, hrequests ▸ hlater⟩
    | cons first earlier =>
      injection heq with _ hrequests
      exact Or.inl ⟨earlier, later, hrequests, hlater⟩
  · rintro (⟨earlier, later, rfl, hlater⟩ | ⟨rfl, hlater⟩)
    · exact ⟨request :: earlier, later, rfl, hlater⟩
    · exact ⟨[], requests, rfl, hlater⟩

theorem run_find?_eq_some_iff (table : HandlerTable A) (requests : List (TableRequest A)) :
    (table.run requests).find? source kind = some handler ↔
      Stands requests source kind handler ∨
        table.find? source kind = some handler ∧
          ∀ request ∈ requests, ¬ request.Concerns source kind := by
  induction requests generalizing table with
  | nil =>
    have hnothing : ¬ Stands [] source kind handler := by
      intro ⟨earlier, later, heq, _⟩
      simp at heq
    simp [run, hnothing]
  | cons request requests ih =>
    change ((table.perform request).run requests).find? source kind = some handler ↔ _
    rw [ih, perform_find?_eq_some_iff, stands_cons, List.forall_mem_cons]
    constructor
    · rintro (hstands | ⟨rfl | ⟨hother, hfind⟩, hlater⟩)
      · exact Or.inl (Or.inl hstands)
      · exact Or.inl (Or.inr ⟨rfl, hlater⟩)
      · exact Or.inr ⟨hfind, hother, hlater⟩
    · rintro ((hstands | ⟨rfl, hlater⟩) | ⟨hfind, hother, hlater⟩)
      · exact Or.inl hstands
      · exact Or.inr ⟨Or.inl rfl, hlater⟩
      · exact Or.inr ⟨Or.inr ⟨hother, hfind⟩, hlater⟩

theorem run_empty_find?_eq_some_iff (requests : List (TableRequest A)) :
    ((∅ : HandlerTable A).run requests).find? source kind = some handler ↔
      Stands requests source kind handler := by
  have hnone : (∅ : HandlerTable A).find? source kind = none := Std.ExtTreeMap.getElem?_empty
  rw [run_find?_eq_some_iff, hnone]
  simp

/--
What is found in the table, how much is in it, how it reads and what is taken out of it with a view
are all determined by the handlers that stand.
-/
theorem holds_what_stands (requests : List (TableRequest A)) :
    let table := (∅ : HandlerTable A).run requests
    (∀ source kind handler, table.find? source kind = some handler ↔
      Stands requests source kind handler) ∧
    (∀ source kind, (table.erase source kind).1 = true ↔
      ∃ handler, Stands requests source kind handler) ∧
    (∃ keys : List EventKey, keys.Pairwise EventKey.Precedes ∧
      (∀ key, key ∈ keys ↔ ∃ handler, Stands requests key.source key.kind handler) ∧
      table.size = keys.length ∧
      table.describe = String.join ["\x7b",
        ", ".intercalate (keys.map fun key => s!"{key.describe}: EventHandler"), "\x7d"]) ∧
    ∀ view, (∀ key : EventKey, key.isWithin view ↔ key.source = view) ∧
      ∀ source kind, (table.eraseView view).find? source kind =
        if source = view then none else table.find? source kind := by
  intro table
  have hfind {source : ViewId} {kind : EventKind} {handler : Handler A} :
      table.find? source kind = some handler ↔ Stands requests source kind handler :=
    run_empty_find?_eq_some_iff requests
  have hsome (source : ViewId) (kind : EventKind) :
      (table.find? source kind).isSome ↔ ∃ handler, Stands requests source kind handler := by
    rw [Option.isSome_iff_exists]
    exact exists_congr fun _ => hfind
  refine ⟨fun _ _ _ => hfind, ?_, ⟨table.entries.keys, ?_, ?_, ?_, rfl⟩, ?_⟩
  · intro source kind
    rw [erase_fst, hsome]
  · exact table.entries.ordered_keys.imp fun {a b} => (EventKey.compare_eq_lt_iff a b).mp
  · intro key
    rw [Std.ExtTreeMap.mem_keys, ← hsome, ← Std.ExtTreeMap.contains_iff_mem,
      Std.ExtTreeMap.contains_eq_isSome_getElem?]
    rfl
  · exact Std.ExtTreeMap.length_keys.symm
  · exact fun view => ⟨EventKey.isWithin_iff view, table.eraseView_find? view⟩

end HandlerTable

end ViewMotion
