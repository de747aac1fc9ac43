import FlowCanvas.Canvas.Listeners
import FlowCanvas.Main
import FlowCanvas.Proofs.Checks
import FlowCanvas.Proofs.Keyed
import FlowCanvas.Proofs.Operations
import FlowCanvas.Proofs.Runs
import FlowCanvas.Proofs.Steps
import FlowCanvas.Session.Api
import FlowCanvas.Proofs.Numbering
import FlowCanvas.Proofs.Freshness
import FlowCanvas.Proofs.Graph
import FlowCanvas.Proofs.References
import FlowCanvas.Proofs.Invariant
import FlowCanvas.Proofs.RoundTrip
import FlowCanvas.Proofs.AllOrNothing
import FlowCanvas.Proofs.Contents
import FlowCanvas.Proofs.Lowering
import FlowCanvas.Proofs.Projection
import FlowCanvas.Proofs.Chains
import FlowCanvas.Proofs.Fitting
import FlowCanvas.Proofs.Boxes
import FlowCanvas.Proofs.Saving
import FlowCanvas.Proofs.Mirror
import FlowCanvas.Proofs.Rereading
import FlowCanvas.Proofs.Reopening
import FlowCanvas.Proofs.PropertyBags
import FlowCanvas.Proofs.Fallback
import FlowCanvas.Proofs.Relocation
import FlowCanvas.Proofs.Drag
import FlowCanvas.Proofs.Rejections
import FlowCanvas.Proofs.Resolving
import FlowCanvas.Proofs.Frames
import FlowCanvas.Proofs.Dropping
import FlowCanvas.Proofs.EditedPrograms
import FlowCanvas.Proofs.Subscriptions
import FlowCanvas.Proofs.Coercions
import FlowCanvas.Proofs.Rounding
import FlowCanvas.Proofs.IntegerTexts
import FlowCanvas.Proofs.Spelling
import FlowCanvas.Proofs.JsonTexts
import FlowCanvas.Proofs.JsonLimits
import FlowCanvas.Proofs.Answers
import FlowCanvas.Proofs.Independence
import FlowCanvas.Proofs.Bindings
import FlowCanvas.Proofs.Patches
import FlowCanvas.Proofs.Folders
import FlowCanvas.Proofs.Ancestors
import FlowCanvas.Proofs.CallTargets
import FlowCanvas.Proofs.Layouts
import FlowCanvas.Proofs.Stamps
