import Dealias.Entry.Json
import Dealias.Main
import Dealias.Run.Memory
import Dealias.Proofs.Cut
import Dealias.Proofs.Encoding
import Dealias.Proofs.Rewriting
import Dealias.Proofs.Spans
import Dealias.Proofs.Piecewise
import Dealias.Proofs.Splice
import Dealias.Proofs.Boundaries
import Dealias.Proofs.Returning
import Dealias.Proofs.Passes
import Dealias.Proofs.Stretch
import Dealias.Proofs.FirstFault
import Dealias.Proofs.Settled
import Dealias.Proofs.Found
import Dealias.Proofs.Accessible
import Dealias.Proofs.Tree
import Dealias.Proofs.InPlace
import Dealias.Proofs.RunOnTree
import Dealias.Proofs.Components
import Dealias.Proofs.WalkOrder
import Dealias.Proofs.WayToRoot
import Dealias.Proofs.Purposes
import Dealias.Proofs.Shape
import Dealias.Proofs.Identity
import Dealias.Proofs.Foretold
import Dealias.Proofs.FirstVisit
import Dealias.Proofs.LaidOut
import Dealias.Proofs.DryRun
import Dealias.Proofs.Separate
import Dealias.Proofs.Room
import Dealias.Proofs.AllOrNothing
import Dealias.Proofs.EitherMode
import Dealias.Proofs.Trace
import Dealias.Proofs.Obstacle
import Dealias.Proofs.Loops
import Dealias.Proofs.Spellings
import Dealias.Proofs.WrittenEntries
import Dealias.Proofs.Rendering
import Dealias.Proofs.Delivery
import Dealias.Proofs.ExitStatus
import Dealias.Proofs.Arguments
import Dealias.Proofs.Settings
import Dealias.Proofs.Causes
