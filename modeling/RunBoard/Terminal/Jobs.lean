import RunBoard.Model.Job
import RunBoard.Terminal.Runs

/-!
# Jobs on the terminal
-/

namespace RunBoard.Terminal

def labelsText (job : Job) : String :=
  commaSeparated (job.labels.entries.map fun (key, value) => s!"{key}={value}")

def jobRow (viewer : Viewer) (job : Job) : List String :=
  let display := job.display viewer.now
  [job.name, display.cell, viewer.timeText job.startedAt, display.durationText,
    percentText job.progress, labelsText job]

def jobsTable (viewer : Viewer) (jobs : List Job) : Table :=
  ⟨["Job", "Status", "Started", "Duration", "Progress", "Labels"], jobs.map (jobRow viewer)⟩

def jobSummary (viewer : Viewer) (job : Job) : String :=
  let message :=
    match job.status.message with
    | some message => fieldLine "Message" message
    | none => ""
  fieldLine "Job" job.name ++ statusLine (job.display viewer.now) job.progress ++
    fieldLine "Labels" (orPlaceholder (some (labelsText job))) ++ message

def historyRow (viewer : Viewer) (status : JobStatus) : List String :=
  [viewer.timeText (some status.time), status.state.name, status.message.getD ""]

def jobHistoryTable (viewer : Viewer) (job : Job) : Table :=
  ⟨["Time", "State", "Message"], job.history.map (historyRow viewer)⟩

end RunBoard.Terminal
