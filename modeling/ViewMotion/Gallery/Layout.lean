import ViewMotion.ViewTree.Basic

/-!
This module contains simple layouts, and what more elaborate ones are made of. A layout stops at
the first view that it misses.
-/

namespace ViewMotion.Layout

variable {K ε α : Type} [Scalar K]

def place (v : ViewId) (bounds : Rect K) : EStateM ε (ViewTree K) Unit :=
  modify fun tree => (tree.place v bounds).2

def require (v : ViewId) (found : Option α) : EStateM ViewError (ViewTree K) α :=
  match found with
  | some a => pure a
  | none => throw (.missing v)

def fit (v : ViewId) : EStateM ViewError (ViewTree K) Unit := do
  let tree ← get
  let kind ← require v (tree.kind? v)
  let origin := (tree.bounds? v).elim ⟨0, 0⟩ Rect.origin
  place v ⟨origin, kind.naturalSize⟩

def stretch (parent : ViewId) : EStateM ViewError (ViewTree K) Unit := do
  let tree ← get
  let bounds ← require parent (tree.bounds? parent)
  (tree.subviews parent).forM fun v => place v ⟨⟨0, 0⟩, bounds.size⟩

def lineUp (parent : ViewId) (spacing : K) : EStateM ViewError (ViewTree K) Unit := do
  let tree ← get
  let _ ← require parent (tree.kind? parent)
  go 0 (tree.subviews parent)
where
  go (x : K) : List ViewId → EStateM ViewError (ViewTree K) Unit
    | [] => pure ()
    | v :: rest => do
      let tree ← get
      let kind ← require v (tree.kind? v)
      let size := kind.naturalSize
      place v ⟨⟨x, 0⟩, size⟩
      go (x + (size.width + spacing)) rest

end ViewMotion.Layout
