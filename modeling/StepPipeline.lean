import StepPipeline.Catalogue.Declaration
import StepPipeline.Catalogue.Initial
import StepPipeline.Catalogue.Instance
import StepPipeline.Main
import StepPipeline.Session.Work
import StepPipeline.Catalogue.Registry
import StepPipeline.Proofs.Pipeline.Fold
import StepPipeline.Proofs.Pipeline.Arity
import StepPipeline.Proofs.Session.Life
import StepPipeline.Proofs.Session.SingleUse
import StepPipeline.Proofs.Session.Once
import StepPipeline.Proofs.Session.Tower
import StepPipeline.Proofs.Session.Ending
import StepPipeline.Proofs.Catalogue.Linearization
import StepPipeline.Proofs.Catalogue.Table
import StepPipeline.Proofs.Catalogue.WellFormed
import StepPipeline.Proofs.Catalogue.History
import StepPipeline.Proofs.Catalogue.Roots
import StepPipeline.Proofs.Catalogue.Leaves
import StepPipeline.Proofs.Catalogue.Listing
import StepPipeline.Proofs.Catalogue.Slots
import StepPipeline.Proofs.Catalogue.Closed
import StepPipeline.Proofs.Catalogue.Registration
import StepPipeline.Proofs.Numeral.Binary64
import StepPipeline.Proofs.Config.Checks
import StepPipeline.Proofs.Config.Format
import StepPipeline.Proofs.Config.Regular
import StepPipeline.Proofs.World.Operation
import StepPipeline.Proofs.World.Execution
import StepPipeline.Proofs.World.Ticks
import StepPipeline.Proofs.World.Exact
import StepPipeline.Proofs.World.Bounds
import StepPipeline.Proofs.World.Stability
import StepPipeline.Proofs.World.SourceOrder
import StepPipeline.Proofs.World.Isolation
import StepPipeline.Proofs.Config.File
import StepPipeline.Grid.Memory
import StepPipeline.Proofs.Pipeline.Resolution
import StepPipeline.World.Diffusion
import StepPipeline.Proofs.World.Diffusion
import StepPipeline.Proofs.World.MaximumPrinciple
import StepPipeline.Proofs.World.Symmetry
import StepPipeline.Proofs.Grid.Peak
import StepPipeline.Proofs.Grid.Memory
import StepPipeline.Proofs.Catalogue.Contracts
import StepPipeline.Proofs.Catalogue.Shapes
import StepPipeline.Pipeline.Supply
import StepPipeline.Proofs.Pipeline.Lazy
import StepPipeline.Session.Shelf
import StepPipeline.Proofs.Session.Frame
import StepPipeline.Proofs.Session.Snapshot
import StepPipeline.Proofs.Session.Log
import StepPipeline.Proofs.Session.Verdict
import StepPipeline.Proofs.Pipeline.Chain
import StepPipeline.Proofs.Config.Recognised
import StepPipeline.Proofs.Config.Written
import StepPipeline.Proofs.Numeral.Order
import StepPipeline.Proofs.World.Peak
import StepPipeline.Proofs.Numeral.Rational
import StepPipeline.Proofs.Numeral.Integer
import StepPipeline.Proofs.Config.Integer
