import RunBoard.Jobs.Store

/-!
# What an action does to the job store

Each slice of the store after an action, in terms of that slice before it and of the action.
-/

namespace RunBoard.Jobs

/-- The last job of this name. -/
def lastNamed? (name : String) (jobs : List Job) : Option Job :=
  (jobs.filter fun job => job.name = name).getLast?

theorem lastNamed?_append (name : String) (first second : List Job) :
    lastNamed? name (first ++ second) = (lastNamed? name second).or (lastNamed? name first) := by
  simp [lastNamed?, List.getLast?_append]

theorem lastNamed?_singleton (name : String) (job : Job) :
    lastNamed? name [job] = if job.name = name then some job else none := by
  by_cases same : job.name = name <;> simp [lastNamed?, same]

theorem name_of_lastNamed? {name : String} {jobs : List Job} {job : Job}
    (found : lastNamed? name jobs = some job) : job.name = name := by
  have member := (List.mem_filter.mp (List.mem_of_getLast? found)).2
  simpa using member

theorem lastNamed?_isSome {name : String} {jobs : List Job} :
    (lastNamed? name jobs).isSome = true ↔ name ∈ jobs.map Job.name := by
  rw [lastNamed?, List.getLast?_isSome, Ne, List.filter_eq_nil_iff]
  simp

namespace Action

/-- The jobs that an action brings. -/
def jobs : Action → List Job
  | fetchJobsSuccess _ response => response.jobs
  | getJobSuccess job => [job]
  | _ => []

/-- The load status that an action gives to a job of this name, if it mentions one. -/
def statusFor? (name : String) : Action → Option LoadStatus
  | getJobRequest asked => if asked = name then some .loading else none
  | getJobFailed asked => if asked = name then some .failed else none
  | getJobSuccess job => if job.name = name then some .loaded else none
  | fetchJobsSuccess _ response =>
      if name ∈ response.jobs.map Job.name then some .loaded else none
  | _ => none

end Action

/-- The list after an action. -/
def ListState.after (list : ListState) : Action → ListState
  | .fetchJobsRequest key => { list with status := .loading, key := key }
  | .fetchJobsSuccess key response =>
      if list.key = key then ⟨.loaded, response.totalCount, list.key, response.jobs.map Job.name⟩
      else list
  | .fetchJobsFailed key => if list.key = key then { list with status := .failed } else list
  | _ => list

namespace Store

theorem job?_keep (store : Store) (job : Job) (name : String) :
    (store.keep job).job? name = if job.name = name then some job else store.job? name :=
  KeyMap.get?_insert ..

theorem status?_keep (store : Store) (job : Job) (name : String) :
    (store.keep job).status? name =
      if job.name = name then some .loaded else store.status? name :=
  KeyMap.get?_insert ..

theorem status?_setStatus (store : Store) (asked name : String) (status : LoadStatus) :
    (store.setStatus asked status).status? name =
      if asked = name then some status else store.status? name :=
  KeyMap.get?_insert ..

theorem list_merge (store : Store) (jobs : List Job) : (store.merge jobs).list = store.list := by
  induction jobs generalizing store with
  | nil => rfl
  | cons job rest ih => exact ih (store.keep job)

theorem job?_merge (store : Store) (jobs : List Job) (name : String) :
    (store.merge jobs).job? name = (lastNamed? name jobs).or (store.job? name) := by
  induction jobs generalizing store with
  | nil => rfl
  | cons job rest ih =>
      rw [← List.singleton_append, lastNamed?_append, lastNamed?_singleton, Option.or_assoc]
      refine (ih (store.keep job)).trans (congrArg _ ?_)
      rw [job?_keep]
      split <;> rfl

theorem status?_merge (store : Store) (jobs : List Job) (name : String) :
    (store.merge jobs).status? name =
      if name ∈ jobs.map Job.name then some .loaded else store.status? name := by
  induction jobs generalizing store with
  | nil => rfl
  | cons job rest ih =>
      refine (ih (store.keep job)).trans ?_
      rw [status?_keep]
      by_cases inside : name ∈ rest.map Job.name
      · rw [if_pos inside, if_pos]
        exact List.mem_cons_of_mem _ inside
      · by_cases same : job.name = name
        · rw [if_neg inside, if_pos same, if_pos]
          exact same ▸ List.mem_cons_self
        · rw [if_neg inside, if_neg same, if_neg]
          exact List.not_mem_cons_of_ne_of_not_mem (Ne.symm same) inside

theorem job?_dispatch (store : Store) (action : Action) (name : String) :
    (store.dispatch action).job? name =
      (lastNamed? name action.jobs).or (store.job? name) := by
  cases action with
  | getJobSuccess job => exact store.job?_merge [job] name
  | fetchJobsSuccess key response =>
      have merged := store.job?_merge response.jobs name
      simp only [dispatch]
      split <;> exact merged
  | fetchJobsFailed key =>
      simp only [dispatch]
      split <;> rfl
  | fetchJobsRequest key => rfl
  | getJobRequest asked => rfl
  | getJobFailed asked => rfl

theorem status?_dispatch (store : Store) (action : Action) (name : String) :
    (store.dispatch action).status? name =
      (action.statusFor? name).or (store.status? name) := by
  cases action with
  | getJobRequest asked =>
      refine (store.status?_setStatus asked name .loading).trans ?_
      simp only [Action.statusFor?]
      split <;> rfl
  | getJobFailed asked =>
      refine (store.status?_setStatus asked name .failed).trans ?_
      simp only [Action.statusFor?]
      split <;> rfl
  | getJobSuccess job =>
      refine (store.status?_keep job name).trans ?_
      simp only [Action.statusFor?]
      split <;> rfl
  | fetchJobsSuccess key response =>
      have merged : (store.merge response.jobs).status? name =
          ((Action.fetchJobsSuccess key response).statusFor? name).or (store.status? name) := by
        rw [status?_merge]
        simp only [Action.statusFor?]
        split <;> rfl
      simp only [dispatch]
      split <;> exact merged
  | fetchJobsFailed key =>
      simp only [dispatch]
      split <;> rfl
  | fetchJobsRequest key => rfl

theorem list_dispatch (store : Store) (action : Action) :
    (store.dispatch action).list = store.list.after action := by
  cases action with
  | fetchJobsSuccess key response =>
      by_cases current : store.list.key = key
      · simp [dispatch, ListState.isCurrent, ListState.after, current]
      · simp [dispatch, ListState.isCurrent, ListState.after, current, list_merge]
  | fetchJobsFailed key =>
      by_cases current : store.list.key = key <;>
        simp [dispatch, ListState.isCurrent, ListState.after, current]
  | getJobSuccess job => rfl
  | fetchJobsRequest key => rfl
  | getJobRequest asked => rfl
  | getJobFailed asked => rfl

end Store

end RunBoard.Jobs
