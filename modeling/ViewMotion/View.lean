import Std.Data.ExtTreeMap
import ViewMotion.Color
import ViewMotion.Geometry

/-!
This module contains the names of views, the kinds of views, and how much room each kind asks for.
-/

namespace ViewMotion

structure ViewId where
  /-- All of the 128 bits. -/
  number : Nat
deriving DecidableEq, Repr, Inhabited

namespace ViewId

instance : Ord ViewId := ⟨compareOn number⟩

theorem compare_def (a b : ViewId) : compare a b = compare a.number b.number := rfl

instance : Std.TransOrd ViewId := inferInstanceAs (Std.TransCmp (compareOn number))

instance : Std.LawfulEqOrd ViewId where
  eq_of_compare {a b} h := by
    cases a
    cases b
    rw [compare_def, Std.LawfulEqOrd.compare_eq_iff_eq] at h
    rw [mk.injEq]
    exact h
  compare_self := by simp

/--
The first 32 bits are plenty to tell views apart in messages.
-/
def describe (v : ViewId) : String :=
  let digits := Nat.toDigits 16 (v.number / Nat.pow 2 96)
  let padding := List.replicate (8 - digits.length) '0'
  s!"ViewId({String.ofList (padding ++ digits)})"

end ViewId

/--
Where the names of new views come from. No name is given twice.
-/
structure ViewNames where
  name : Nat → ViewId
  taken : Nat
  name_inj : Function.Injective name

namespace ViewNames

def counted : ViewNames where
  name := .mk
  taken := 0
  name_inj _ _ h := by rw [ViewId.mk.injEq] at h; exact h

def upcoming (names : ViewNames) : ViewId := names.name names.taken

def take (names : ViewNames) : ViewId × ViewNames :=
  (names.upcoming, { names with taken := names.taken + 1 })

end ViewNames

inductive ViewKind (K : Type) where
  | container
  | fill (color : Color K) (size : Size K)
  | button (caption : String)
  | label (text : String)
  | link (text : String) (tag : UInt32)
  | image (name : String)
  | scrollView (offset : K)
  | bubble (color : Color K) (anchor : Option ViewId)
deriving DecidableEq, BEq, Repr

namespace ViewKind

variable {K : Type} [Scalar K]

def characterWidth : K := 7

def lineHeight : K := 16

def lineSize (text : String) (padding : K) : Size K where
  width := (text.length : K) * characterWidth + 2 * padding
  height := lineHeight + 2 * padding

def naturalSize : ViewKind K → Size K
  | container | scrollView _ | bubble _ _ => .zero
  | fill _ size => size
  | button caption => lineSize caption 6
  | label text | link text _ => lineSize text 0
  | image _ => ⟨16, 16⟩

end ViewKind

end ViewMotion
