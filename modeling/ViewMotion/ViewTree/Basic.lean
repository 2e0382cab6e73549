import Std.Data.ExtTreeMap
import Std.Data.ExtTreeSet
import ViewMotion.View

/-!
This module contains trees of views, the look-ups on them and the operations that change a single
view.

A tree keeps what there is to know about its views in several maps, and a view is in the tree if it
has a kind there. Besides that it holds the set of the views that have to be painted again and the
set of those whose subviews have to be laid out again.
-/

namespace ViewMotion

structure ViewTree (K : Type) where
  root : ViewId
  kinds : Std.ExtTreeMap ViewId (ViewKind K)
  bounds : Std.ExtTreeMap ViewId (Rect K)
  superviews : Std.ExtTreeMap ViewId ViewId
  subviewLists : Std.ExtTreeMap ViewId (List ViewId)
  groups : Std.ExtTreeMap ViewId Nat
  damaged : Std.ExtTreeSet ViewId
  unarranged : Std.ExtTreeSet ViewId

inductive ViewError where
  | missing (view : ViewId)
  | isRoot
deriving DecidableEq, Repr

namespace ViewError

def message : ViewError → String
  | missing view => s!"no such view: {view.describe}"
  | isRoot => "the root view cannot be removed"

end ViewError

namespace ViewTree

variable {K : Type}

def contains (tree : ViewTree K) (v : ViewId) : Bool := tree.kinds.contains v

def size (tree : ViewTree K) : Nat := tree.kinds.size

def kind? (tree : ViewTree K) (v : ViewId) : Option (ViewKind K) := tree.kinds[v]?

def bounds? (tree : ViewTree K) (v : ViewId) : Option (Rect K) := tree.bounds[v]?

def superview? (tree : ViewTree K) (v : ViewId) : Option ViewId := tree.superviews[v]?

def subviews (tree : ViewTree K) (v : ViewId) : List ViewId := tree.subviewLists[v]?.getD []

def group? (tree : ViewTree K) (v : ViewId) : Option Nat := tree.groups[v]?

def naturalSize [Scalar K] (tree : ViewTree K) (v : ViewId) : Size K :=
  ((tree.kind? v).map ViewKind.naturalSize).getD .zero

theorem contains_iff_mem {tree : ViewTree K} {v : ViewId} : tree.contains v ↔ v ∈ tree.kinds :=
  Iff.rfl

def damage (tree : ViewTree K) (v : ViewId) : ViewTree K :=
  { tree with damaged := tree.damaged.insert v }

def disarrange (tree : ViewTree K) (v : ViewId) : ViewTree K :=
  { tree with unarranged := tree.unarranged.insert v }

def enter [Scalar K] (tree : ViewTree K) (v : ViewId) (kind : ViewKind K) : ViewTree K :=
  { tree with
    kinds := tree.kinds.insert v kind
    bounds := tree.bounds.insert v .zero
    subviewLists := tree.subviewLists.insert v [] }
    |>.damage v

def ofRoot [Scalar K] (root : ViewId) : ViewTree K :=
  let empty : ViewTree K := {
    root
    kinds := ∅
    bounds := ∅
    superviews := ∅
    subviewLists := ∅
    groups := ∅
    damaged := ∅
    unarranged := ∅
  }
  empty.enter root .container

def attach (tree : ViewTree K) (parent v : ViewId) : ViewTree K :=
  { tree with
    superviews := tree.superviews.insert v parent
    subviewLists := tree.subviewLists.modify parent (· ++ [v]) }
    |>.disarrange parent

def insert [Scalar K] (tree : ViewTree K) (parent : ViewId) (kind : ViewKind K) (v : ViewId) :
    Except ViewError (ViewTree K) :=
  if tree.contains parent then .ok ((tree.enter v kind).attach parent v)
  else .error (.missing parent)

def modifyKind? (tree : ViewTree K) (v : ViewId) (change : ViewKind K → ViewKind K) :
    Option (ViewTree K) :=
  match tree.kind? v with
  | none => none
  | some kind => some ({ tree with kinds := tree.kinds.insert v (change kind) }.damage v)

def setGroup (tree : ViewTree K) (v : ViewId) (group : Nat) : Except ViewError (ViewTree K) :=
  if tree.contains v then .ok { tree with groups := tree.groups.insert v group }
  else .error (.missing v)

/--
Tells whether the view is there. Its superview has to be painted again as well, and its subviews
have to be laid out again if it has another size now.
-/
def place [Scalar K] (tree : ViewTree K) (v : ViewId) (bounds : Rect K) : Bool × ViewTree K :=
  match tree.bounds? v with
  | none => (false, tree)
  | some current =>
    let moved := { tree with bounds := tree.bounds.insert v bounds }.damage v
    let resized := if current.size != bounds.size then moved.disarrange v else moved
    match tree.superview? v with
    | none => (true, resized)
    | some parent => (true, resized.damage parent)

def takeDamaged (tree : ViewTree K) : List ViewId × ViewTree K :=
  (tree.damaged.toList, { tree with damaged := ∅ })

def takeUnarranged (tree : ViewTree K) : List ViewId × ViewTree K :=
  (tree.unarranged.toList, { tree with unarranged := ∅ })

/--
The view and all views below it, each before its subviews. There are no more of them than the tree
has views.
-/
def preorder (tree : ViewTree K) (v : ViewId) : List ViewId :=
  go tree.size [v]
where
  go : Nat → List ViewId → List ViewId
    | 0, _ => []
    | _, [] => []
    | steps + 1, v :: rest => v :: go steps (tree.subviews v ++ rest)

/--
Takes one view after the other off a stack and puts its subviews on top, until the stack is empty,
or gives up if that takes `limit` rounds. The views come in the order in which they are taken.
-/
def collect? (tree : ViewTree K) : (limit : Nat) → (stack : List ViewId) → Option (List ViewId)
  | 0, _ => none
  | _ + 1, [] => some []
  | limit + 1, v :: rest =>
    (tree.collect? limit ((tree.subviews v).reverse ++ rest)).map (v :: ·)

end ViewTree

end ViewMotion
