import Std.Data.ExtTreeMap
import ViewMotion.Event

/-!
This module contains event handlers, and the table that holds at most one of them for each view and
kind of event.

The code of a handler says what it does. It is left to others to give it a meaning. A handler that
is in the table several times is still one handler, known by its id.
-/

namespace ViewMotion

structure HandlerId where
  number : Nat
deriving DecidableEq, Repr, Inhabited

namespace HandlerId

def next (id : HandlerId) : HandlerId := ⟨id.number + 1⟩

end HandlerId

structure Handler (A : Type) where
  id : HandlerId
  code : A
deriving Repr

structure EventKey where
  source : ViewId
  kind : EventKind
deriving DecidableEq, Repr

namespace EventKey

def rank (key : EventKey) : Nat := key.kind.rank

instance : Ord EventKey := ⟨compareLex (compareOn source) (compareOn rank)⟩

theorem compare_def (a b : EventKey) :
    compare a b = (compare a.source b.source).then (compare a.rank b.rank) := rfl

instance : Std.TransOrd EventKey :=
  inferInstanceAs (Std.TransCmp (compareLex (compareOn source) (compareOn rank)))

instance : Std.LawfulEqOrd EventKey where
  eq_of_compare {a b} h := by
    cases a
    cases b
    rw [compare_def, Ordering.then_eq_eq] at h
    rw [mk.injEq]
    refine ⟨Std.LawfulEqOrd.eq_of_compare h.1, EventKind.rank_inj ?_⟩
    exact Std.LawfulEqOrd.eq_of_compare h.2
  compare_self := by simp

def isWithin (view : ViewId) (key : EventKey) : Bool :=
  (compare ⟨view, .first⟩ key).isLE && (compare key ⟨view, .last⟩).isLE

theorem isWithin_iff (view : ViewId) (key : EventKey) : key.isWithin view ↔ key.source = view := by
  unfold isWithin
  rw [compare_def, compare_def, Bool.and_eq_true]
  constructor
  · intro h
    have hswap : compare key.source view = (compare view key.source).swap :=
      Std.OrientedCmp.eq_swap
    cases hsource : compare view key.source with
    | lt =>
      rw [hswap, hsource] at h
      simp at h
    | eq => exact (Std.LawfulEqOrd.eq_of_compare hsource).symm
    | gt =>
      rw [hsource] at h
      simp at h
  · intro h
    subst h
    simp only [Std.ReflCmp.compare_self, Ordering.then, Nat.isLE_compare]
    exact ⟨EventKind.first_rank_le _, EventKind.rank_le_last _⟩

def describe (key : EventKey) : String := s!"({key.source.describe}, {key.kind.name})"

end EventKey

structure HandlerTable (A : Type) where
  entries : Std.ExtTreeMap EventKey (Handler A)

namespace HandlerTable

variable {A : Type}

instance : EmptyCollection (HandlerTable A) := ⟨⟨∅⟩⟩

def find? (table : HandlerTable A) (source : ViewId) (kind : EventKind) : Option (Handler A) :=
  table.entries[(⟨source, kind⟩ : EventKey)]?

def insert (table : HandlerTable A) (source : ViewId) (kind : EventKind) (handler : Handler A) :
    HandlerTable A :=
  ⟨table.entries.insert ⟨source, kind⟩ handler⟩

def erase (table : HandlerTable A) (source : ViewId) (kind : EventKind) : Bool × HandlerTable A :=
  (table.entries.contains ⟨source, kind⟩, ⟨table.entries.erase ⟨source, kind⟩⟩)

def eraseView (table : HandlerTable A) (view : ViewId) : HandlerTable A :=
  let keys := table.entries.keys.filter (·.isWithin view)
  ⟨keys.foldl (fun entries key => entries.erase key) table.entries⟩

theorem insert_find? (table : HandlerTable A) (source s : ViewId) (kind k : EventKind)
    (handler : Handler A) :
    (table.insert source kind handler).find? s k =
      if source = s ∧ kind = k then some handler else table.find? s k := by
  simp only [find?, insert, Std.ExtTreeMap.getElem?_insert, Std.LawfulEqOrd.compare_eq_iff_eq,
    EventKey.mk.injEq]

theorem erase_find? (table : HandlerTable A) (source s : ViewId) (kind k : EventKind) :
    (table.erase source kind).2.find? s k =
      if source = s ∧ kind = k then none else table.find? s k := by
  simp only [find?, erase, Std.ExtTreeMap.getElem?_erase, Std.LawfulEqOrd.compare_eq_iff_eq,
    EventKey.mk.injEq]

theorem erase_fst (table : HandlerTable A) (source : ViewId) (kind : EventKind) :
    (table.erase source kind).1 = (table.find? source kind).isSome := by
  simp only [find?, erase, Std.ExtTreeMap.contains_eq_isSome_getElem?]

theorem eraseKeys_getElem? (keys : List EventKey) (entries : Std.ExtTreeMap EventKey (Handler A))
    (key : EventKey) :
    (keys.foldl (fun entries key => entries.erase key) entries)[key]? =
      if key ∈ keys then none else entries[key]? := by
  induction keys generalizing entries with
  | nil => simp
  | cons head rest ih =>
    rw [List.foldl_cons, ih]
    simp only [Std.ExtTreeMap.getElem?_erase, Std.LawfulEqOrd.compare_eq_iff_eq, List.mem_cons]
    by_cases hrest : key ∈ rest
    · simp [hrest]
    · by_cases hhead : head = key
      · simp [hhead]
      · have : ¬ key = head := fun h => hhead h.symm
        simp [hrest, hhead, this]

theorem eraseView_find? (table : HandlerTable A) (view s : ViewId) (k : EventKind) :
    (table.eraseView view).find? s k = if s = view then none else table.find? s k := by
  simp only [find?, eraseView, eraseKeys_getElem?, List.mem_filter, Std.ExtTreeMap.mem_keys,
    EventKey.isWithin_iff]
  by_cases hs : s = view
  · by_cases hmem : (⟨s, k⟩ : EventKey) ∈ table.entries
    · simp [hs, hs ▸ hmem]
    · rw [Std.ExtTreeMap.getElem?_eq_none hmem]
      simp
  · simp [hs]

def size (table : HandlerTable A) : Nat := table.entries.size

def isEmpty (table : HandlerTable A) : Bool := table.entries.isEmpty

def describe (table : HandlerTable A) : String :=
  let entries := table.entries.keys.map fun key => s!"{key.describe}: EventHandler"
  String.join ["\x7b", ", ".intercalate entries, "\x7d"]

end HandlerTable

end ViewMotion
