import ViewMotion.Proofs.Gallery.Composition
import ViewMotion.Proofs.Handler.Caution

/-!
This module contains the caution and the silence of the gallery: its handlers make careful requests
only, and they neither call each other nor send a message.
-/

namespace ViewMotion

open Scene

variable {K T C X ε α : Type}

namespace Reaction

theorem quietly_keeps (action : GalleryM ε K T C X α)
    (collection : List (Handler (Reaction K C))) :
    (program.quietly action).Keeps (fun _ => True) collection :=
  (Program.keeps_step fun _ _ => trivial).bind fun _ => trivial

theorem quietly_leavesQueue {action : GalleryM ε K T C X α} (h : Silent action) :
    (program.quietly action).LeavesQueue :=
  (Program.attempt_leavesQueue h).bind fun _ _ _ => rfl

variable [Scalar K] [Clock T]

theorem careful_quietly {action : GalleryM ε K T C X α} {learned : α → List ViewId}
    (h : Careful [] action learned) (scene : GalleryScene K T C X) :
    (program.quietly action).Careful scene :=
  (Program.careful_attempt (h.settle scene)).bind fun _ _ _ => trivial

section Programs

variable (client : C → Event → Program (Reaction K C) (GalleryScene K T C X) Unit)
  {reaction : Reaction K C} (hdemo : ∀ code, reaction ≠ .client code) (event : Event)

include hdemo

/--
The handlers of the demos make careful requests only, and call nobody.
-/
theorem program_careful (scene : GalleryScene K T C X) :
    (program client reaction event).Careful scene ∧
      (program client reaction event).Keeps (fun _ => True) [] := by
  obtain ⟨_, _, action, _, _, heq, hcomposed⟩ := program_eq_quietly client hdemo event
  rw [heq]
  exact ⟨careful_quietly hcomposed.careful scene, quietly_keeps action []⟩

theorem program_leavesQueue : (program client reaction event).LeavesQueue := by
  obtain ⟨_, _, action, _, _, heq, hcomposed⟩ := program_eq_quietly client hdemo event
  rw [heq]
  exact quietly_leavesQueue hcomposed.silent

end Programs

end Reaction

namespace Gallery

variable [Scalar K] [Clock T]
  {client : C → Event → Program (Reaction K C) (GalleryScene K T C X) Unit}

theorem interpreter_careful (hclient : ∀ code event scene, (client code event).Careful scene)
    (depth : Nat) : (interpreter client depth).Careful := by
  intro reaction event scene
  change (Reaction.program client reaction event).Careful scene
  by_cases hdemo : ∀ code, reaction ≠ .client code
  · exact (Reaction.program_careful client hdemo event scene).1
  · simp only [not_forall, not_not] at hdemo
    obtain ⟨code, rfl⟩ := hdemo
    exact hclient code event scene

theorem interpreter_sendsNothing (hclient : ∀ code event, (client code event).LeavesQueue)
    (depth : Nat) : (interpreter client depth).SendsNothing := by
  intro reaction event
  change (Reaction.program client reaction event).LeavesQueue
  by_cases hdemo : ∀ code, reaction ≠ .client code
  · exact Reaction.program_leavesQueue client hdemo event
  · simp only [not_forall, not_not] at hdemo
    obtain ⟨code, rfl⟩ := hdemo
    exact hclient code event

end Gallery

end ViewMotion
