import SpriteStage.Rehearsal
import SpriteStage.Web.Handling
import SpriteStage.Proofs.Number.Sign
import SpriteStage.Proofs.Number.Same
import SpriteStage.Proofs.Json.Grammar
import SpriteStage.Proofs.Json.Progress
import SpriteStage.Proofs.Json.Complete
import SpriteStage.Proofs.Json.Numeral
import SpriteStage.Proofs.Json.Valid
import SpriteStage.Proofs.Forest.Order
import SpriteStage.Proofs.Forest.Gap
import SpriteStage.Proofs.Forest.Shape
import SpriteStage.Proofs.Forest.Sound
import SpriteStage.Proofs.Forest.Turn
import SpriteStage.Proofs.Forest.Distinct
import SpriteStage.Proofs.Forest.Every
import SpriteStage.Proofs.Forest.Replaced
import SpriteStage.Proofs.Forest.Listing
import SpriteStage.Proofs.Forest.Backward
import SpriteStage.Proofs.Forest.Merging
import SpriteStage.Proofs.Forest.Steady
import SpriteStage.Proofs.Forest.Standing
import SpriteStage.Proofs.Forest.Calls
import SpriteStage.Proofs.Store.Aloof
import SpriteStage.Proofs.Store.Quiet
import SpriteStage.Proofs.Store.Chronicle
import SpriteStage.Proofs.Store.History
import SpriteStage.Proofs.Store.Proceedings
import SpriteStage.Proofs.Store.Telling
import SpriteStage.Proofs.Store.Subscriptions
import SpriteStage.Proofs.Snapshot.Frame
import SpriteStage.Proofs.Snapshot.Change
import SpriteStage.Proofs.Snapshot.Peopled
import SpriteStage.Proofs.Snapshot.Distinct
import SpriteStage.Proofs.Snapshot.Lineup
import SpriteStage.Proofs.Snapshot.WellFormed
import SpriteStage.Proofs.Snapshot.Parity
import SpriteStage.Proofs.Snapshot.Reversal
import SpriteStage.Proofs.Snapshot.Drawn
import SpriteStage.Proofs.Snapshot.Placed
import SpriteStage.Proofs.Snapshot.Finite
import SpriteStage.Proofs.Snapshot.Typed
import SpriteStage.Proofs.Snapshot.Unposed
import SpriteStage.Proofs.Snapshot.Removal
import SpriteStage.Proofs.Snapshot.Exchange
import SpriteStage.Proofs.Snapshot.Messages
import SpriteStage.Proofs.Snapshot.Amend
import SpriteStage.Proofs.Snapshot.Parameters
import SpriteStage.Proofs.Snapshot.Insertion
import SpriteStage.Proofs.Snapshot.Commuting
import SpriteStage.Proofs.Snapshot.Survival
import SpriteStage.Proofs.Walk.Trail
import SpriteStage.Proofs.Walk.Leaf
import SpriteStage.Proofs.Walk.Visit
import SpriteStage.Proofs.Walk.Course
import SpriteStage.Proofs.Walk.Completion
import SpriteStage.Proofs.Walk.Flat
import SpriteStage.Proofs.Walk.Edits
import SpriteStage.Proofs.Walk.Within
import SpriteStage.Proofs.Walk.Underway
import SpriteStage.Proofs.Walk.Only
import SpriteStage.Proofs.Walk.Replies
import SpriteStage.Proofs.Walk.Steps
import SpriteStage.Proofs.Walk.Confined
import SpriteStage.Proofs.Walk.Bubble
import SpriteStage.Proofs.Walk.Agenda
import SpriteStage.Proofs.Walk.Ending
import SpriteStage.Proofs.Stage.Dispatch
import SpriteStage.Proofs.Stage.Aside
import SpriteStage.Proofs.Stage.Lasting
import SpriteStage.Proofs.Stage.Enduring
import SpriteStage.Proofs.Stage.Flight
import SpriteStage.Proofs.Stage.Sound
import SpriteStage.Proofs.Stage.Script
import SpriteStage.Proofs.Stage.Work
import SpriteStage.Proofs.Stage.Session
import SpriteStage.Proofs.Stage.Theatre
import SpriteStage.Proofs.Stage.Asked
import SpriteStage.Proofs.Stage.Refusal
import SpriteStage.Proofs.Stage.Detection
import SpriteStage.Proofs.Stage.Lookout
import SpriteStage.Proofs.Stage.Watch
import SpriteStage.Proofs.Stage.Vigil
import SpriteStage.Proofs.Stage.Present
import SpriteStage.Proofs.Stage.Pose
import SpriteStage.Proofs.Stage.Sparing
import SpriteStage.Proofs.Stage.Order
import SpriteStage.Proofs.Stage.Ensures
import SpriteStage.Proofs.Stage.Report
import SpriteStage.Proofs.Stage.Colliding
import SpriteStage.Proofs.Stage.Draining
import SpriteStage.Proofs.Web.Answering
import SpriteStage.Proofs.Web.Truthful
import SpriteStage.Proofs.Web.Valid
import SpriteStage.Proofs.Web.Body
