import Storyboard.Inspection
import Storyboard.Main
import Storyboard.Problem
import Storyboard.Proofs.Callbacks
import Storyboard.Proofs.ChangeLog
import Storyboard.Proofs.Dispatch
import Storyboard.Proofs.Expression.Reads
import Storyboard.Proofs.Path.Grammar
import Storyboard.Proofs.Reopening
import Storyboard.Proofs.Requesting
import Storyboard.Proofs.Resolution.AnyOrder
import Storyboard.Proofs.Temporaries
import Storyboard.Proofs.Termination
import Storyboard.Proofs.Expression.Rows
import Storyboard.Proofs.Node.Decoding
import Storyboard.Proofs.Command.Assigning
import Storyboard.Proofs.Path.Slots
import Storyboard.Proofs.Path.Frame
import Storyboard.Proofs.Path.Commuting
import Storyboard.Proofs.Command.Likeness
import Storyboard.Proofs.Composition
import Storyboard.Proofs.Path.Rendering
import Storyboard.Proofs.Path.Faults
import Storyboard.Proofs.Expression.Literals
import Storyboard.Proofs.Context.Announcing
import Storyboard.Proofs.Operator.Finding
import Storyboard.Proofs.Node.Digits
import Storyboard.Proofs.Resolution.InOrder
import Storyboard.Proofs.Expression.Afresh
import Storyboard.Proofs.Web.Contents
import Storyboard.Proofs.Starting
import Storyboard.Proofs.Rereading
import Storyboard.Proofs.Operator.Positions
import Storyboard.Proofs.Checking
import Storyboard.Proofs.Tandem
import Storyboard.Proofs.Guarding
import Storyboard.Proofs.Navigating
import Storyboard.Proofs.Storing
