import ViewMotion.Motion.Basic

/-!
This module contains the events that views emit.
-/

namespace ViewMotion

inductive EventKind where
  | pressed
  | linkClicked
  | motionEnded
deriving DecidableEq, Repr

namespace EventKind

def rank : EventKind → Nat
  | pressed => 0
  | linkClicked => 1
  | motionEnded => 2

def first : EventKind := pressed

def last : EventKind := motionEnded

theorem rank_inj {a b : EventKind} (h : a.rank = b.rank) : a = b := by
  cases a <;> cases b <;> first | rfl | contradiction

theorem first_rank_le (kind : EventKind) : first.rank ≤ kind.rank := by
  cases kind <;> decide

theorem rank_le_last (kind : EventKind) : kind.rank ≤ last.rank := by
  cases kind <;> decide

def name : EventKind → String
  | pressed => "Pressed"
  | linkClicked => "LinkClicked"
  | motionEnded => "AnimationEnded"

end EventKind

structure Modifiers where
  shift : Bool := false
  control : Bool := false
  option : Bool := false
  command : Bool := false
deriving DecidableEq, Repr

structure Event where
  source : ViewId
  kind : EventKind
  modifiers : Modifiers := {}
  phase : Option Phase := none
deriving DecidableEq, Repr

namespace Event

def motionEnded (source : ViewId) (phase : Phase) : Event where
  source
  kind := .motionEnded
  phase := some phase

end Event

end ViewMotion
