import RunBoard.KeyMap
import RunBoard.Model.Error
import RunBoard.Model.Status
import RunBoard.Model.Value
import RunBoard.Text.Percent
import RunBoard.Time.Timestamp

/-!
# Runs

A run executes a workflow; its state lists the nodes of the workflow graph with what has
become of each.
-/

namespace RunBoard

/-- What a failed node left behind. -/
structure NodeError where
  classifier : String
  message : String
  stacktrace : List String
  deriving DecidableEq, Repr

structure NodeResult where
  error : Option NodeError
  deriving DecidableEq, Repr

structure NodeState where
  name : String
  status : NodeStatus
  startedAt : Option Timestamp
  completedAt : Option Timestamp
  result : Option NodeResult
  cacheHit : Bool
  deriving DecidableEq

structure RunState where
  status : RunStatus
  startedAt : Option Timestamp
  completedAt : Option Timestamp
  progress : Float
  nodes : List NodeState

structure User where
  name : String
  email : Option String
  deriving DecidableEq, Repr

structure Package where
  workflowId : String
  workflowVersion : String
  deriving DecidableEq, Repr

structure Run where
  id : String
  name : Option String
  parent : Option String
  createdAt : Timestamp
  owner : User
  pkg : Package
  seed : Int64
  tags : List String
  notes : Option String
  params : KeyMap TypedValue
  state : RunState
  children : List String

structure RunList where
  results : List Run
  totalCount : UInt64

namespace NodeState

def error? (node : NodeState) : Option NodeError :=
  node.result.bind NodeResult.error

/-- The problem of a node that was in `node` and then in `next`, if there is one. -/
def regression? (node next : NodeState) : Option RunProblem :=
  if next.status.rank < node.status.rank then
    some (.regressed node.name node.status next.status)
  else none

/-- Whether logs can exist for a node. -/
def hasLogs (node : NodeState) : Bool :=
  !node.cacheHit && node.status ≠ .waiting && node.status ≠ .scheduled

/-- Nodes with a start time in its order come before nodes without one. -/
def startsNoLater (first second : NodeState) : Bool :=
  match first.startedAt, second.startedAt with
  | some a, some b => decide (a.millis ≤ b.millis)
  | none, some _ => false
  | _, none => true

end NodeState

namespace RunState

def isStarted (state : RunState) : Bool := state.startedAt.isSome

def isCompleted (state : RunState) : Bool := state.completedAt.isSome

def isSuccessful (state : RunState) : Bool := state.status = .success

/-- The nodes by start time, those that have not started last; equal ones keep their order. -/
def nodesByStart (state : RunState) : List NodeState :=
  state.nodes.mergeSort NodeState.startsNoLater

/-- The first node with this name. -/
def node? (state : RunState) (name : String) : Option NodeState :=
  state.nodes.find? fun node => node.name = name

/-- How the times of a state contradict its status. -/
def faults (state : RunState) : List LifecycleFault :=
  (if state.status.isTerminal ≠ state.isCompleted then
    [.completion state.status state.isCompleted] else []) ++
  (if state.status ≠ .scheduled && !state.isStarted then [.unstarted state.status] else [])

/-- The lifecycle problems of a state that belongs to this run. -/
def problems (state : RunState) (run : String) : List RunProblem :=
  state.faults.map (RunProblem.lifecycle run)

/-- The nodes that went backwards since an earlier state. -/
def regressionsSince (state previous : RunState) : List RunProblem :=
  previous.nodes.filterMap fun before => do
    let after ← state.node? before.name
    before.regression? after

end RunState

namespace User

def text (user : User) : String :=
  match user.email with
  | some email => s!"{user.name} <{email}>"
  | none => user.name

def nobody : User := ⟨"", none⟩

end User

namespace Package

def unnamed : Package := ⟨"", ""⟩

end Package

namespace Run

/-- The name of a run, or its id when it has none. -/
def displayName (run : Run) : String :=
  match run.name with
  | some name => if name.isEmpty then s!"Untitled run #{run.id}" else name
  | none => s!"Untitled run #{run.id}"

def hasChildren (run : Run) : Bool := !run.children.isEmpty

/-- What is inconsistent about a polled run, also against the previous poll. -/
def problems (run : Run) (previous : Option RunState) : List RunProblem :=
  run.state.problems run.id ++
    match previous with
    | some previous => run.state.regressionsSince previous
    | none => []

end Run

/-- A run with its parent, one level up. -/
structure RunDetail where
  run : Run
  parent : Option Run

namespace RunDetail

/-- Child runs take their notes from the parent. -/
def notes (detail : RunDetail) : Option String :=
  match detail.parent with
  | some parent => parent.notes
  | none => detail.run.notes

/-- Child runs take their tags from the parent. -/
def tags (detail : RunDetail) : List String :=
  match detail.parent with
  | some parent => parent.tags
  | none => detail.run.tags

end RunDetail

/-- Filter and page of a run listing. -/
structure RunQuery where
  page : UInt32
  perPage : UInt32
  q : Option String
  parent : Option String
  workflow : Option String
  owner : Option String
  deriving DecidableEq, Repr

namespace RunQuery

/-- The filters by their names, in order. -/
def filters (query : RunQuery) : List (String × Option String) :=
  [("q", query.q), ("parent", query.parent), ("workflow", query.workflow), ("owner", query.owner)]

def filterText : String × Option String → String
  | (_, none) => ""
  | (name, some value) => "&" ++ name ++ "=" ++ Text.Percent.encodeComponent value

/-- The query part of the URL of the listing. -/
def text (query : RunQuery) : String :=
  s!"per_page={query.perPage}&page={query.page}" ++ String.join (query.filters.map filterText)

end RunQuery

/-- The fields of a run that can be edited; unset ones are left as they are. -/
structure RunPatch where
  name : Option String
  notes : Option String
  tags : Option (List String)
  deriving DecidableEq, Repr

namespace RunPatch

def isEmpty (patch : RunPatch) : Bool :=
  patch.name.isNone && patch.notes.isNone && patch.tags.isNone

def apply (patch : RunPatch) (run : Run) : Run :=
  { run with
    name := patch.name <|> run.name
    notes := patch.notes <|> run.notes
    tags := patch.tags.getD run.tags }

end RunPatch

end RunBoard
