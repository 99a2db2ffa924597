import RunBoard.Client.Calls
import RunBoard.Model.Output
import RunBoard.View.Basic

/-!
# The views of the gateway

Runs, logs and workflows as they are shown. A view that takes two requests has all of its
content or none.
-/

namespace RunBoard.View

open Load

variable {m : Type → Type} [Monad m]

/-- A run with its parent. -/
def run (client : Client m) : View m String RunDetail :=
  ⟨"run", .once, fun id _ => client.getRunDetail id⟩

/-- A run, until it has completed. -/
def runWatch (client : Client m) (period : Nat) : View m String Run :=
  ⟨"run", .every period fun _ run => run.state.isCompleted, fun id _ => client.getRun id⟩

/-- The lines that are known, and those that came after the last of them. -/
def newerLines (ask : Option Timestamp → Pending m ClientError (List LogLine))
    (known : List LogLine) : Pending m ClientError (List LogLine) :=
  (ask (known.getLast?.map LogLine.createdAt)).map fun newer => known ++ newer

/-- All lines of a log so far, for as long as the target is followed. `ask` asks for all
lines, or for those after a time. -/
def tail (ask : LogTarget → Option Timestamp → Pending m ClientError (List LogLine))
    (period : Nat) : View m LogTarget (List LogLine) :=
  ⟨"logs", .every period fun target _ => !target.follow,
    fun target known => newerLines (ask target) (known.getD [])⟩

/-- The log of a node. -/
def logTail (client : Client m) (period : Nat) : View m LogTarget (List LogLine) :=
  tail (fun target => client.runLogs target.run target.node target.stream) period

def runList (client : Client m) : View m RunQuery RunList :=
  ⟨"runs", .once, fun query _ => client.listRuns query⟩

def children (client : Client m) : View m String (List Run) :=
  ⟨"child runs", .once, fun id _ => client.listChildRuns id⟩

/-- A workflow with its latest runs. -/
structure WorkflowContent where
  workflow : Workflow
  lastRuns : List Run

/-- A workflow by its id and, if it is not the latest, its version. -/
structure WorkflowKey where
  id : String
  version : Option String
  deriving DecidableEq, Repr

def workflow (client : Client m) : View m WorkflowKey WorkflowContent :=
  ⟨"workflow", .once, fun key _ =>
    (client.getWorkflow key.id key.version).andThen fun workflow =>
      (client.workflowRuns key.id).map fun runs => ⟨workflow, runs⟩⟩

/-- What a node has produced. -/
structure NodeOutputs where
  artifacts : List Artifact
  metrics : List Metric

structure NodeKey where
  run : String
  node : String
  deriving DecidableEq, Repr

def nodeOutputs (client : Client m) : View m NodeKey NodeOutputs :=
  ⟨"outputs", .once, fun key _ =>
    (client.artifacts key.run key.node).andThen fun artifacts =>
      (client.metrics key.run key.node).map fun metrics => ⟨artifacts, metrics⟩⟩

end RunBoard.View
