import RunBoard.Model.Job

/-!
# The job store

Jobs by name, the load status of each, and one page of a job list that refers to them by
name. The store changes by actions only; the jobs that a list response brings are kept
even when the list itself has been superseded.
-/

namespace RunBoard.Jobs

inductive LoadStatus where
  | pending
  | loading
  | loaded
  | failed
  deriving DecidableEq, Repr

namespace LoadStatus

def all : List LoadStatus := [pending, loading, loaded, failed]

def name : LoadStatus → String
  | pending => "pending"
  | loading => "loading"
  | loaded => "loaded"
  | failed => "failed"

def ofName? (text : String) : Option LoadStatus := all.find? fun status => status.name = text

end LoadStatus

/-- Which list of jobs is asked for. -/
structure ListKey where
  page : UInt32
  labels : Option String
  deriving DecidableEq, Repr

structure ListState where
  status : LoadStatus
  totalCount : UInt64
  key : ListKey
  names : List String
  deriving DecidableEq, Repr

namespace ListState

def initial : ListState := ⟨.pending, 0, ⟨1, none⟩, []⟩

/-- Whether a response for this page and selector answers the latest request. -/
def isCurrent (list : ListState) (key : ListKey) : Bool := list.key = key

end ListState

structure Store where
  status : KeyMap LoadStatus
  entities : KeyMap Job
  list : ListState

inductive Action where
  | fetchJobsRequest (key : ListKey)
  | fetchJobsSuccess (key : ListKey) (response : JobList)
  | fetchJobsFailed (key : ListKey)
  | getJobRequest (name : String)
  | getJobSuccess (job : Job)
  | getJobFailed (name : String)

namespace Action

def kind : Action → String
  | fetchJobsRequest _ => "FETCH_JOBS_REQUEST"
  | fetchJobsSuccess _ _ => "FETCH_JOBS_SUCCESS"
  | fetchJobsFailed _ => "FETCH_JOBS_FAILED"
  | getJobRequest _ => "GET_JOB_REQUEST"
  | getJobSuccess _ => "GET_JOB_SUCCESS"
  | getJobFailed _ => "GET_JOB_FAILED"

end Action

namespace Store

def empty : Store := ⟨KeyMap.empty, KeyMap.empty, .initial⟩

def job? (store : Store) (name : String) : Option Job := store.entities.get? name

def status? (store : Store) (name : String) : Option LoadStatus := store.status.get? name

/-- The jobs of the current page in list order. -/
def rows (store : Store) : List Job := store.list.names.filterMap store.job?

/-- Whether a job is loaded and will not change any more. -/
def isCachedTerminal (store : Store) (name : String) : Bool :=
  store.status? name = some .loaded && (store.job? name).any Job.isCompleted

def setStatus (store : Store) (name : String) (status : LoadStatus) : Store :=
  { store with status := store.status.insert name status }

/-- Keeps a job that a response brought. -/
def keep (store : Store) (job : Job) : Store :=
  { store with
    status := store.status.insert job.name .loaded
    entities := store.entities.insert job.name job }

/-- Keeps jobs in order, so that of two with one name the later stays. -/
def merge (store : Store) (jobs : List Job) : Store := jobs.foldl keep store

def dispatch (store : Store) : Action → Store
  | .getJobRequest name => store.setStatus name .loading
  | .getJobSuccess job => store.keep job
  | .getJobFailed name => store.setStatus name .failed
  | .fetchJobsRequest key =>
      { store with list := { store.list with status := .loading, key := key } }
  | .fetchJobsSuccess key response =>
      let merged := store.merge response.jobs
      if store.list.isCurrent key then
        { merged with
          list := ⟨.loaded, response.totalCount, store.list.key, response.jobs.map Job.name⟩ }
      else merged
  | .fetchJobsFailed key =>
      if store.list.isCurrent key then
        { store with list := { store.list with status := .failed } }
      else store

end Store

end RunBoard.Jobs
