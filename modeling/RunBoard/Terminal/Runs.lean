import RunBoard.Model.Display
import RunBoard.Model.Output
import RunBoard.Terminal.Table
import RunBoard.Time.Calendar

/-!
# Runs on the terminal

What is printed about runs, their nodes and what the nodes produce.
-/

namespace RunBoard.Terminal

/-- Where and when something is shown. -/
structure Viewer where
  zone : Zone
  now : Timestamp

namespace Viewer

/-- A time as the viewer reads it. -/
def timeText (viewer : Viewer) (time : Option Timestamp) : String :=
  match time with
  | some time => (Moment.ofTimestamp viewer.zone time).longText
  | none => placeholder

end Viewer

/-- A text, or the placeholder for one that is not there or empty. -/
def orPlaceholder (text : Option String) : String :=
  (text.filter fun text => !text.isEmpty).getD placeholder

def commaSeparated (texts : List String) : String := ", ".intercalate texts

def percentText (progress : Float) : String := s!"{progressPercent progress}%"

/-- A label and what it stands for, on a line of its own. -/
def fieldLine (label text : String) : String := s!"{label}: {text}\n"

/-- Where a page stands. There is always one page at least. -/
def pagination (page : UInt32) (total : UInt64) (perPage : UInt32) : String :=
  s!"Page {page} of {max 1 (pageCount total.toNat perPage.toNat)} ({total} total)"

def statusLine (display : StatusDisplay) (progress : Float) : String :=
  fieldLine "Status" s!"{display.cell}  {percentText progress}  {display.durationText}"

/-! ## Runs -/

def runRow (viewer : Viewer) (run : Run) : List String :=
  let display := run.state.display viewer.now
  [run.id, run.displayName, run.pkg.workflowId, run.owner.name,
    viewer.timeText (some run.createdAt), display.cell, display.durationText]

def runsTable (viewer : Viewer) (runs : List Run) : Table :=
  ⟨["Id", "Name", "Workflow", "Owner", "Created", "Status", "Duration"],
    runs.map (runRow viewer)⟩

def runSummary (viewer : Viewer) (detail : RunDetail) : String :=
  let run := detail.run
  let parent :=
    match detail.parent with
    | some parent => fieldLine "Parent" s!"{parent.displayName} ({parent.id})"
    | none => ""
  let tags := if detail.tags.isEmpty then placeholder else commaSeparated detail.tags
  fieldLine "Run" run.displayName ++ fieldLine "Id" run.id ++ parent ++
    fieldLine "Workflow" s!"{run.pkg.workflowId} (version {run.pkg.workflowVersion})" ++
    fieldLine "Owner" run.owner.text ++
    fieldLine "Created" (viewer.timeText (some run.createdAt)) ++
    fieldLine "Seed" (toString run.seed.toInt) ++ fieldLine "Tags" tags ++
    fieldLine "Notes" (orPlaceholder detail.notes) ++
    statusLine (run.state.display viewer.now) run.state.progress

def paramsTable (run : Run) : Table :=
  ⟨["Parameter", "Type", "Value"],
    run.params.entries.map fun (name, value) => [name, value.kind.text, value.text]⟩

def childRow (viewer : Viewer) (run : Run) : List String :=
  let display := run.state.display viewer.now
  [run.id, run.displayName, display.cell, display.durationText, run.childSummary.getD ""]

def childrenTable (viewer : Viewer) (runs : List Run) : Table :=
  ⟨["Id", "Name", "Status", "Duration", "Details"], runs.map (childRow viewer)⟩

/-! ## Nodes -/

def nodeRow (viewer : Viewer) (node : NodeState) : List String :=
  [node.name, (node.display viewer.now).cell, viewer.timeText node.startedAt,
    viewer.timeText node.completedAt, node.summary viewer.now]

def nodesTable (viewer : Viewer) (nodes : List NodeState) : Table :=
  ⟨["Node", "Status", "Started", "Completed", "Summary"], nodes.map (nodeRow viewer)⟩

def errorBlock (node : NodeState) (error : NodeError) : String :=
  s!"── {node.name} failed ──\n{error.classifier}: {error.message}\n" ++
    String.join (error.stacktrace.map fun frame => s!"    {frame}\n")

/-- What the failed nodes left behind, a block for each. -/
def nodeErrors (nodes : List NodeState) : String :=
  String.join (nodes.filterMap fun node => node.error?.map (errorBlock node))

/-! ## Logs and outputs -/

def logText (zone : Zone) (line : LogLine) : String :=
  s!"{(Moment.ofTimestamp zone line.createdAt).clockText} {line.message}"

def artifactsTable (artifacts : List Artifact) : Table :=
  ⟨["Artifact", "Type", "Value"],
    artifacts.map fun artifact => [artifact.name, artifact.value.kind.text, artifact.value.text]⟩

def metricText (x : Float) : String := String.ofList (Decimal.Layout.positional.write x)

def metricsTable (metrics : List Metric) : Table :=
  ⟨["Metric", "Value"], metrics.map fun metric => [metric.name, metricText metric.value]⟩

end RunBoard.Terminal
