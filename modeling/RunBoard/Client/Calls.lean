import RunBoard.Client.Endpoint
import RunBoard.Client.Gateway
import RunBoard.Wire.Models

/-!
# Calls of the gateway

What can be asked of the gateway, each call with the type of its answer.
-/

namespace RunBoard.Client

variable {m : Type → Type} [Monad m]

/-! ## Runs -/

def listRuns (client : Client m) (query : RunQuery) : Pending m ClientError RunList :=
  client.getJson Wire.runList (Endpoint.runs query)

def getRun (client : Client m) (id : String) : Pending m ClientError Run :=
  client.getJson Wire.run (Endpoint.run id)

/-- The parent of a run, if it names one. -/
def withParent (client : Client m) (run : Run) : Pending m ClientError RunDetail :=
  match run.parent with
  | some parent => (client.getRun parent).map fun parent => ⟨run, some parent⟩
  | none => .ready (.ok ⟨run, none⟩)

/-- A run with its parent; the parent of the parent is not asked for. -/
def getRunDetail (client : Client m) (id : String) : Pending m ClientError RunDetail :=
  (client.getRun id).andThen client.withParent

/-- Edits a run. What the gateway answers does not matter. -/
def updateRun (client : Client m) (id : String) (patch : RunPatch) : Pending m ClientError Unit :=
  (client.request (Endpoint.run id)
    (RequestOptions.post.withJson (Wire.encode Wire.runPatch patch)).asBlob).map fun _ => ()

def killRun (client : Client m) (id : String) : Pending m ClientError Unit :=
  (client.request (Endpoint.killRun id) RequestOptions.post.asBlob).map fun _ => ()

def listChildRuns (client : Client m) (id : String) : Pending m ClientError (List Run) :=
  (client.getJson Wire.runList (Endpoint.childRuns id)).map RunList.results

/-- The log lines of a node, all or those after a time. -/
def runLogs (client : Client m) (id node : String) (stream : LogStream)
    (since : Option Timestamp) : Pending m ClientError (List LogLine) :=
  client.getJson (.list Wire.logLine) (Endpoint.logsSince id node stream since)

/-- What there is at a path, as it comes. -/
def download (client : Client m) (path : String) : Pending m ClientError (List UInt8) :=
  (client.request path RequestOptions.get.asBlob).map Payload.bytes

def downloadLogs (client : Client m) (id node : String) (stream : LogStream) :
    Pending m ClientError (List UInt8) :=
  client.download (Endpoint.logFile id node stream)

def downloadRun (client : Client m) (id : String) : Pending m ClientError (List UInt8) :=
  client.download (Endpoint.exportRun id)

def artifacts (client : Client m) (id node : String) : Pending m ClientError (List Artifact) :=
  client.getJson (.list Wire.artifact) (Endpoint.artifacts id node)

def metrics (client : Client m) (id node : String) : Pending m ClientError (List Metric) :=
  client.getJson (.list Wire.metric) (Endpoint.metrics id node)

/-! ## Workflows -/

def getWorkflow (client : Client m) (id : String) (version : Option String) :
    Pending m ClientError Workflow :=
  client.getJson Wire.workflow (Endpoint.workflow id version)

def listWorkflows (client : Client m) (q : Option String) (page : UInt32) :
    Pending m ClientError WorkflowList :=
  client.getJson Wire.workflowList (Endpoint.workflows q page)

/-- The latest runs of a workflow. -/
def workflowRuns (client : Client m) (id : String) : Pending m ClientError (List Run) :=
  (client.getJson Wire.runList (Endpoint.workflowRuns id)).map RunList.results

def listOperators (client : Client m) : Pending m ClientError (List Operator) :=
  client.getJson (.list Wire.operator) Endpoint.operators

/-! ## Jobs -/

def listJobs (client : Client m) (page perPage : UInt32) (labels : Option String) :
    Pending m ClientError JobList :=
  client.getJson Wire.jobList (Endpoint.jobs page perPage labels)

def getJob (client : Client m) (name : String) : Pending m ClientError Job :=
  client.getJson Wire.job (Endpoint.job name)

end RunBoard.Client
