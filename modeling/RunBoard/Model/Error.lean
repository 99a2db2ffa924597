import RunBoard.Model.Status
import RunBoard.Wire.Error

/-!
# Model errors

What can be wrong with what the gateway says, and how it is worded: a run whose times do not
go with its status, a node that went backwards, a text that names no status, and a value of
another kind.
-/

namespace RunBoard

/-- Why a run state contradicts the lifecycle of its status. -/
inductive LifecycleFault where
  /-- A terminal status has a completion time and no other status has one. -/
  | completion (status : RunStatus) (completed : Bool)
  /-- Every status after the first has a start time. -/
  | unstarted (status : RunStatus)
  deriving DecidableEq, Repr

/-- An inconsistency in what the gateway reports about a run. -/
inductive RunProblem where
  | lifecycle (run : String) (fault : LifecycleFault)
  | regressed (node : String) (before after : NodeStatus)
  deriving DecidableEq, Repr

namespace LifecycleFault

def message : LifecycleFault → String
  | completion status completed =>
      let word := if completed then "set" else "unset"
      s!"status {status.name} with completed_at {word}"
  | unstarted status => s!"status {status.name} without started_at"

end LifecycleFault

namespace RunProblem

def message : RunProblem → String
  | lifecycle run fault => s!"Run {run} violates its lifecycle: {fault.message}"
  | regressed node before after =>
      s!"Node {node} went backwards from {before.name} to {after.name}"

end RunProblem

/-- Why something the gateway says cannot be taken at its word. -/
inductive ModelError where
  | undecodable (cause : Wire.DecodeError)
  | unknownStatus (text : String)
  | inconsistent (problem : RunProblem)

namespace ModelError

def message : ModelError → String
  | undecodable cause => "JSON error: " ++ cause.message
  | unknownStatus text => "Unknown status: " ++ text
  | inconsistent problem => problem.message

end ModelError

/-- The run status of this name. -/
def RunStatus.parse (text : String) : Except ModelError RunStatus :=
  match RunStatus.ofName? text with
  | some status => .ok status
  | none => .error (.unknownStatus text)

end RunBoard
