/-!
# Statuses

The lifecycle stages of runs, of the nodes inside a run and of jobs, with the words that
stand for them on the wire.
-/

namespace RunBoard

inductive RunStatus where
  | scheduled
  | running
  | success
  | failed
  | killed
  | lost
  deriving DecidableEq, Repr

namespace RunStatus

def all : List RunStatus := [scheduled, running, success, failed, killed, lost]

def name : RunStatus → String
  | scheduled => "scheduled"
  | running => "running"
  | success => "success"
  | failed => "failed"
  | killed => "killed"
  | lost => "lost"

/-- Whether a run in this status will not change any more. -/
def isTerminal : RunStatus → Bool
  | scheduled | running => false
  | success | failed | killed | lost => true

/-- The status with this name. -/
def ofName? (text : String) : Option RunStatus :=
  all.find? fun status => status.name = text

end RunStatus

inductive NodeStatus where
  | waiting
  | scheduled
  | running
  | success
  | failed
  | killed
  | lost
  | cancelled
  deriving DecidableEq, Repr

namespace NodeStatus

def all : List NodeStatus :=
  [waiting, scheduled, running, success, failed, killed, lost, cancelled]

def name : NodeStatus → String
  | waiting => "waiting"
  | scheduled => "scheduled"
  | running => "running"
  | success => "success"
  | failed => "failed"
  | killed => "killed"
  | lost => "lost"
  | cancelled => "cancelled"

/-- The position in the lifecycle. A node never moves to a lower rank. -/
def rank : NodeStatus → Nat
  | waiting | scheduled => 0
  | running => 1
  | success | failed | killed | lost | cancelled => 2

def isTerminal (status : NodeStatus) : Bool := status.rank = 2

end NodeStatus

inductive JobState where
  | pending
  | scheduled
  | running
  | successful
  | failed
  | canceled
  | lost
  deriving DecidableEq, Repr

namespace JobState

def all : List JobState := [pending, scheduled, running, successful, failed, canceled, lost]

def name : JobState → String
  | pending => "Pending"
  | scheduled => "Scheduled"
  | running => "Running"
  | successful => "Successful"
  | failed => "Failed"
  | canceled => "Canceled"
  | lost => "Lost"

def isFailed : JobState → Bool
  | failed | canceled | lost => true
  | _ => false

def isSuccessful (state : JobState) : Bool := state = successful

def isRunning (state : JobState) : Bool := state = running

/-- Whether a job in this state will not change any more. -/
def isCompleted (state : JobState) : Bool := state.isFailed || state.isSuccessful

end JobState

end RunBoard
