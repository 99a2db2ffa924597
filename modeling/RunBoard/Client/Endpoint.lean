import RunBoard.Model.Output
import RunBoard.Model.Run
import RunBoard.Time.Calendar

/-!
# Endpoints

The paths of the gateway, relative to its base URL. Ids and names are encoded, so that
each stays one segment; a label selector is passed on as it is.
-/

namespace RunBoard.Endpoint

open Text.Percent (encodeComponent)

/-- Children of a run are listed on one page of this size. -/
def childrenPerPage : Nat := 50

/-- How many runs are shown beside their workflow. -/
def workflowRunsPerPage : Nat := 15

def workflowsPerPage : Nat := 25

def base : String := "/api/v1"

def auth : String := "/auth"

def runs (query : RunQuery) : String := s!"{base}/run?{query.text}"

def run (id : String) : String := s!"{base}/run/{encodeComponent id}"

def killRun (id : String) : String := run id ++ "/kill"

/-- A run as the gateway keeps it. -/
def exportRun (id : String) : String := run id ++ "?download=true"

def childRuns (id : String) : String :=
  s!"{base}/run?per_page={childrenPerPage}&parent={encodeComponent id}"

def workflowRuns (id : String) : String :=
  s!"{base}/run?per_page={workflowRunsPerPage}&workflow={encodeComponent id}"

def logs (id node : String) (stream : LogStream) : String :=
  s!"{run id}/logs/{encodeComponent node}/{stream.name}"

/-- The log lines after a time. -/
def logsSince (id node : String) (stream : LogStream) : Option Timestamp → String
  | none => logs id node stream
  | some since => s!"{logs id node stream}?since={encodeComponent since.isoText}"

def logFile (id node : String) (stream : LogStream) : String :=
  logs id node stream ++ "?download=true"

def artifacts (id node : String) : String := s!"{run id}/artifacts/{encodeComponent node}"

def metrics (id node : String) : String := s!"{run id}/metrics/{encodeComponent node}"

def workflow (id : String) : Option String → String
  | none => s!"{base}/workflow/{encodeComponent id}"
  | some version =>
      s!"{base}/workflow/{encodeComponent id}?version={encodeComponent version}"

def workflows (q : Option String) (page : UInt32) : String :=
  let text := encodeComponent (q.getD "")
  s!"{base}/workflow?q={text}&page={page}&per_page={workflowsPerPage}"

def operators : String := s!"{base}/operator"

def jobs (page perPage : UInt32) (labels : Option String) : String :=
  let path := s!"{base}/jobs?page={page}&perPage={perPage}"
  match labels with
  | some labels => path ++ "&labels=" ++ labels
  | none => path

def job (name : String) : String := s!"{base}/jobs/{encodeComponent name}"

end RunBoard.Endpoint
