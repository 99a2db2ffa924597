import RunBoard.Model.Run
import RunBoard.Model.Value
import RunBoard.Time.Timestamp

/-!
# What nodes produce

Log lines, artifacts and metrics.
-/

namespace RunBoard

structure LogLine where
  createdAt : Timestamp
  classifier : Option String
  message : String
  deriving DecidableEq

structure Artifact where
  name : String
  value : TypedValue

structure Metric where
  name : String
  value : Float

/-- The two output streams of a node. -/
inductive LogStream where
  | stdout
  | stderr
  deriving DecidableEq, Repr

namespace LogStream

def name : LogStream → String
  | stdout => "stdout"
  | stderr => "stderr"

end LogStream

/-- One output stream of one node, read once or followed. -/
structure LogTarget where
  run : String
  node : String
  stream : LogStream
  follow : Bool
  deriving DecidableEq, Repr

namespace LogTarget

/-- Whether the node can still write: neither it nor its run has completed. -/
def isLive (target : LogTarget) (run : Run) : Bool :=
  !run.state.isCompleted &&
    match run.state.node? target.node with
    | some node => node.completedAt.isNone
    | none => true

end LogTarget

end RunBoard
