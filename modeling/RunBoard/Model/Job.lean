import RunBoard.KeyMap
import RunBoard.Model.Status
import RunBoard.Time.Timestamp

/-!
# Jobs
-/

namespace RunBoard

structure JobStatus where
  state : JobState
  time : Timestamp
  message : Option String
  deriving DecidableEq

structure Job where
  name : String
  labels : KeyMap String
  status : JobStatus
  progress : Float
  history : List JobStatus

structure JobList where
  jobs : List Job
  totalCount : UInt64

namespace Job

def isCompleted (job : Job) : Bool := job.status.state.isCompleted

/-- When the job first ran, by its history and its present status. -/
def startedAt (job : Job) : Option Timestamp :=
  ((job.history ++ [job.status]).find? fun status => status.state = .running).map JobStatus.time

end Job

end RunBoard
