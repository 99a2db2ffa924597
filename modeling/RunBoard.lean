import RunBoard.Command.Scene
import RunBoard.Json.Access
import RunBoard.Load.Timeline
import RunBoard.Main
import RunBoard.Model.Error
import RunBoard.Proofs.Client.Addressing
import RunBoard.Proofs.Jobs.Completed
import RunBoard.Proofs.Jobs.Log
import RunBoard.Proofs.Load.History
import RunBoard.Proofs.Load.Publication
import RunBoard.Proofs.Request.Cancellation
import RunBoard.Proofs.View.Tail
import RunBoard.Proofs.Wire.RoundTrip
import RunBoard.Proofs.Jobs.Misnamed
import RunBoard.Proofs.Wire.Gateway
import RunBoard.Proofs.Client.Token
import RunBoard.Proofs.Client.Bearer
import RunBoard.Proofs.Load.Polling
import RunBoard.Proofs.Request.Evaluation
import RunBoard.Proofs.Run.Progress
import RunBoard.Proofs.Command.Follow
import RunBoard.Proofs.Run.Namesakes
import RunBoard.Proofs.Load.Superseded
import RunBoard.Proofs.Jobs.Results
import RunBoard.Proofs.View.Watch
import RunBoard.Proofs.Jobs.Commuting
import RunBoard.Proofs.Run.Query
import RunBoard.Proofs.Client.Selector
import RunBoard.Proofs.Client.TwoStep
import RunBoard.Proofs.Run.StartOrder
import RunBoard.Proofs.Time.Clock
import RunBoard.Proofs.Time.Wording
import RunBoard.Proofs.Load.Teardown
import RunBoard.Proofs.Workflow.Adjacency
import RunBoard.Proofs.Run.Edit
