import ViewMotion.Clock.Manual
import ViewMotion.EventLoop
import ViewMotion.Gallery.Message
import ViewMotion.Gallery.Reaction
import ViewMotion.Proofs.ViewTree.Subtree
import ViewMotion.Proofs.ViewTree.WellFormed
import ViewMotion.Proofs.ViewTree.Operations
import ViewMotion.Proofs.ViewTree.Pruning
import ViewMotion.Proofs.ViewTree.Traversal
import ViewMotion.Proofs.ViewTree.History
import ViewMotion.Proofs.ViewTree.Marks
import ViewMotion.Proofs.Motion.Frame
import ViewMotion.Proofs.Motion.FrameRate
import ViewMotion.Proofs.ExactScalar
import ViewMotion.Proofs.Scene.History
import ViewMotion.Proofs.Scene.Removal
import ViewMotion.Proofs.Scene.Sparing
import ViewMotion.Proofs.Scene.Landing
import ViewMotion.Proofs.Motion.History
import ViewMotion.Proofs.Motion.Sound
import ViewMotion.Proofs.Motion.Fate
import ViewMotion.Proofs.Motion.Accounts
import ViewMotion.Proofs.Handler.Lock
import ViewMotion.Proofs.Handler.Machine
import ViewMotion.Proofs.Scene.Reentrancy
import ViewMotion.Proofs.EventLoop.Frames
import ViewMotion.Proofs.Scene.Silence
import ViewMotion.Proofs.EventLoop.Polling
import ViewMotion.Proofs.Action
import ViewMotion.Proofs.ViewTree.Extension
import ViewMotion.Proofs.ViewTree.Arrangement
import ViewMotion.Proofs.Scene.Growth
import ViewMotion.Proofs.Scene.Clearing
import ViewMotion.Proofs.Gallery.Dispatch
import ViewMotion.Proofs.Gallery.BubbleBoard.Kept
import ViewMotion.Proofs.Gallery.BubbleBoard.Hanging
import ViewMotion.Proofs.Gallery.BubbleBoard.Presenting
import ViewMotion.Proofs.Gallery.BubbleBoard.Fading
import ViewMotion.Proofs.Gallery.BubbleBoard.Building
import ViewMotion.Proofs.Gallery.BubbleBoard.History
import ViewMotion.Proofs.Gallery.SavePanel.Arrangement
import ViewMotion.Proofs.Gallery.SavePanel.Filling
import ViewMotion.Proofs.Gallery.SavePanel.Following
import ViewMotion.Proofs.Gallery.PopupButton.Opening
import ViewMotion.Proofs.Gallery.PopupButton.History
import ViewMotion.Proofs.ExtendedScalar
import ViewMotion.Proofs.Gallery.PopupButton.Scrolling
import ViewMotion.Proofs.Motion.Calls
import ViewMotion.Proofs.Scene.Refusal
import ViewMotion.Proofs.ViewTree.Agreement
import ViewMotion.Proofs.Motion.Independence
import ViewMotion.Proofs.Scene.Anchoring
import ViewMotion.Proofs.Scene.Caution
import ViewMotion.Proofs.Scene.Composition
import ViewMotion.Proofs.Handler.Caution
import ViewMotion.Proofs.EventLoop.Anchoring
import ViewMotion.Proofs.Gallery.Layout
import ViewMotion.Proofs.Gallery.Composition
import ViewMotion.Proofs.Gallery.Caution
import ViewMotion.Proofs.Gallery.Anchoring
import ViewMotion.Proofs.ViewTree.Deletion
import ViewMotion.Proofs.Scene.Emptying
import ViewMotion.Proofs.Motion.Order
import ViewMotion.Proofs.Easing
import ViewMotion.Proofs.Motion.Trajectory
import ViewMotion.Proofs.Motion.Retargeting
import ViewMotion.Proofs.LawfulScalar
import ViewMotion.Proofs.ViewTree.Placement
import ViewMotion.Proofs.Gallery.SavePanel.Plan
import ViewMotion.Proofs.Gallery.SavePanel.Repetition
import ViewMotion.Proofs.Gallery.SavePanel.Neatness
import ViewMotion.Proofs.Floating.Packing
import ViewMotion.Proofs.Floating.Rounding
import ViewMotion.Proofs.Floating.Arithmetic
import ViewMotion.Proofs.Floating.Interval
import ViewMotion.Proofs.Floating.Easing
import ViewMotion.Proofs.Motion.Validity
import ViewMotion.Proofs.Motion.Punctuality
import ViewMotion.Proofs.Scene.Arrival
import ViewMotion.Proofs.Decimal.Reading
import ViewMotion.Proofs.Gallery.SavePanel.ShownSize
import ViewMotion.Proofs.Gallery.SavePanel.Failing
import ViewMotion.Proofs.ViewTree.Staying
import ViewMotion.Proofs.Scene.Attendance
import ViewMotion.Proofs.Gallery.SavePanel.Confinement
import ViewMotion.Proofs.Gallery.PopupButton.Reopening
import ViewMotion.Proofs.Gallery.PopupButton.Succession
import ViewMotion.Proofs.Gallery.Histories
import ViewMotion.Proofs.Gallery.BubbleBoard.Failing
import ViewMotion.Proofs.Clock.Interval
import ViewMotion.Proofs.Handler.History
