import RunBoard.Client.Calls
import RunBoard.Jobs.Store

/-!
# Calls on the job store

A call starts by telling the store what is on its way and finishes, some time later, by
telling it what came. Calls overlap in any order; each start and each finish is one turn.
A completed job that the store has is not asked for again.
-/

namespace RunBoard.Jobs

inductive Call where
  | list (key : ListKey)
  | job (name : String)
  deriving DecidableEq, Repr

/-- What a call comes to. A list call tells the status that the list has then. -/
inductive CallResult where
  | listed (status : LoadStatus)
  | cached
  | fetched
  | failed (notice : Notice)
  deriving DecidableEq, Repr

/-- What came of a request; nothing, if it was cancelled. -/
abbrev Came (α : Type) := Option (Except ClientError α)

/-- The notice for a request that brought nothing. -/
def failure {α : Type} (what : String) : Came α → Notice
  | some (.error error) => error.notice what
  | _ => .loading what none

namespace Store

def beginList (store : Store) (key : ListKey) : Store := store.dispatch (.fetchJobsRequest key)

def finishList (store : Store) (key : ListKey) (came : Came JobList) : CallResult × Store :=
  match came with
  | some (.ok response) =>
      let merged := store.dispatch (.fetchJobsSuccess key response)
      (.listed merged.list.status, merged)
  | nothing => (.failed (failure "jobs" nothing), store.dispatch (.fetchJobsFailed key))

/-- The store with a job on its way; `none` if nothing needs to be asked for. -/
def beginJob? (store : Store) (name : String) : Option Store :=
  if store.isCachedTerminal name then none else some (store.dispatch (.getJobRequest name))

def finishJob (store : Store) (name : String) (came : Came Job) : CallResult × Store :=
  match came with
  | some (.ok job) => (.fetched, store.dispatch (.getJobSuccess job))
  | nothing => (.failed (failure "job" nothing), store.dispatch (.getJobFailed name))

end Store

/-- A store with the calls that have started and not finished, each with its number. -/
structure Session where
  store : Store
  waiting : List (Nat × Call)

inductive CallEvent where
  | start (number : Nat) (call : Call)
  | finishList (number : Nat) (came : Came JobList)
  | finishJob (number : Nat) (came : Came Job)

namespace CallEvent

def number : CallEvent → Nat
  | start number _ => number
  | finishList number _ => number
  | finishJob number _ => number

/-- Events by their moments; those of one moment stay in order. -/
def inTime (events : List (Nat × CallEvent)) : List (Nat × CallEvent) :=
  events.mergeSort fun first second => decide (first.1 ≤ second.1)

end CallEvent

namespace Session

def new (store : Store) : Session := ⟨store, []⟩

def call? (session : Session) (number : Nat) : Option Call := session.waiting.lookup number

/-- The session with a call that has finished. -/
def close (session : Session) (number : Nat) (outcome : CallResult × Store) :
    Option CallResult × Session :=
  (some outcome.1, ⟨outcome.2, session.waiting.filter fun entry => entry.1 ≠ number⟩)

/-- One turn, with the result of the call that it finishes. -/
def step (session : Session) : CallEvent → Option CallResult × Session
  | .start number (.list key) =>
      (none, ⟨session.store.beginList key, session.waiting ++ [(number, .list key)]⟩)
  | .start number (.job name) =>
      match session.store.beginJob? name with
      | none => (some .cached, session)
      | some store => (none, ⟨store, session.waiting ++ [(number, .job name)]⟩)
  | .finishList number came =>
      match session.call? number with
      | some (.list key) => session.close number (session.store.finishList key came)
      | _ => (none, session)
  | .finishJob number came =>
      match session.call? number with
      | some (.job name) => session.close number (session.store.finishJob name came)
      | _ => (none, session)

end Session

/-! ## Calls without any others -/

section Fetching

variable {m : Type → Type} [Monad m]

/-- Loads one page of jobs. -/
def fetchList (client : Client m) (store : Store) (key : ListKey) : m (CallResult × Store) := do
  let came ← (client.listJobs key.page client.perPage key.labels).await
  return (store.beginList key).finishList key came

/-- Loads a job, unless the store has a copy that will not change any more. -/
def fetchJob (client : Client m) (store : Store) (name : String) : m (CallResult × Store) := do
  match store.beginJob? name with
  | none => return (.cached, store)
  | some begun => return begun.finishJob name (← (client.getJob name).await)

end Fetching

end RunBoard.Jobs
