import ViewMotion.Handler.Program
import ViewMotion.Motion.Frame
import ViewMotion.ViewTree.Removal

/-!
This module contains what event handlers work on: a view tree, with the motions and the handlers of
its views. A view that is removed here takes its handlers and its motion with it.
-/

namespace ViewMotion

inductive Message where
  | input (event : Event)
  | frame (now : Instant)
  | quit
deriving DecidableEq, Repr

structure Scene (K T A X : Type) where
  tree : ViewTree K
  animator : Animator K T
  handlers : HandlerTable A
  queue : List Message
  names : ViewNames
  nextHandler : HandlerId
  /-- What handlers keep for themselves. -/
  store : X

namespace Scene

variable {K T A X ε α : Type}

def new [Scalar K] (names : ViewNames) (clock : T) (defaults : MotionDefaults) (store : X) :
    Scene K T A X :=
  let (root, names) := names.take
  {
    tree := .ofRoot root
    animator := .idle clock defaults
    handlers := ∅
    queue := []
    names
    nextHandler := ⟨0⟩
    store
  }

def onTree (action : EStateM ε (ViewTree K) α) : EStateM ε (Scene K T A X) α := fun scene =>
  match action scene.tree with
  | .ok result tree => .ok result { scene with tree }
  | .error e tree => .error e { scene with tree }

def takeViewId (scene : Scene K T A X) : ViewId × Scene K T A X :=
  let (v, names) := scene.names.take
  (v, { scene with names })

def add [Scalar K] (parent : ViewId) (kind : ViewKind K) :
    EStateM ViewError (Scene K T A X) ViewId := fun scene =>
  let (v, names) := scene.names.take
  match scene.tree.insert parent kind v with
  | .error e => .error e scene
  | .ok tree => .ok v { scene with tree, names }

def setGroup (v : ViewId) (group : Nat) : EStateM ViewError (Scene K T A X) Unit := fun scene =>
  match scene.tree.setGroup v group with
  | .error e => .error e scene
  | .ok tree => .ok () { scene with tree }

def register (source : ViewId) (kind : EventKind) (code : A) (scene : Scene K T A X) :
    Scene K T A X :=
  { scene with
    handlers := scene.handlers.insert source kind ⟨scene.nextHandler, code⟩
    nextHandler := scene.nextHandler.next }

def registerEach (sources : List ViewId) (kind : EventKind) (code : A) (scene : Scene K T A X) :
    Scene K T A X :=
  let handler := ⟨scene.nextHandler, code⟩
  { scene with
    handlers := sources.foldl (fun table v => table.insert v kind handler) scene.handlers
    nextHandler := scene.nextHandler.next }

def send (message : Message) (scene : Scene K T A X) : Scene K T A X :=
  { scene with queue := scene.queue ++ [message] }

def dispatch (event : Event) : Program A (Scene K T A X) Bool :=
  .get fun scene =>
    match scene.handlers.find? event.source event.kind with
    | none => .pure false
    | some handler => .call handler event .pure

variable [Clock T]

def start [Scalar K] (v : ViewId) (destination : Rect K) (duration : Duration) :
    EStateM (MotionError K) (Scene K T A X) Unit := fun scene =>
  match scene.animator.start scene.tree v destination duration with
  | .error e => .error e scene
  | .ok animator => .ok () { scene with animator }

def startDefault [Scalar K] (v : ViewId) (destination : Rect K) :
    EStateM (MotionError K) (Scene K T A X) Unit := fun scene =>
  match scene.animator.startDefault scene.tree v destination with
  | .error e => .error e scene
  | .ok animator => .ok () { scene with animator }

def stop (v : ViewId) (scene : Scene K T A X) : Bool × Scene K T A X :=
  let (stopped, animator) := scene.animator.stop v
  (stopped, { scene with animator })

def frame [Scalar K] (now : Instant) (scene : Scene K T A X) : FrameReport × Scene K T A X :=
  let (report, animator, tree) := scene.animator.frame now scene.tree
  (report, { scene with animator, tree })

def release (scene : Scene K T A X) (v : ViewId) : Scene K T A X :=
  { scene with
    handlers := scene.handlers.eraseView v
    animator := (scene.animator.stop v).2 }

def remove (v : ViewId) : EStateM ViewError (Scene K T A X) Unit := fun scene =>
  -- every view of the tree is taken off the stack once
  let below := (scene.tree.collect? (scene.tree.size + 1) [v]).getD []
  match scene.tree.remove v with
  | .error e => .error e scene
  | .ok tree => .ok () (below.foldl release { scene with tree })

def clear (v : ViewId) : EStateM ViewError (Scene K T A X) Unit := do
  let scene ← get
  (scene.tree.subviews v).forM remove

end Scene

end ViewMotion
