import Mathlib.Data.List.Induction
import RunBoard.Proofs.Jobs.Dispatch

/-!
# The job store as a reading of its log

A store that starts empty holds, after any actions, what can be read off the log of these
actions: the last job of each name, the last word on each name's load status, and the last
answer to the list that was asked for.
-/

namespace RunBoard.Jobs

namespace Action

def requestedKey? : Action → Option ListKey
  | fetchJobsRequest key => some key
  | _ => none

def response? : Action → Option JobList
  | fetchJobsSuccess _ response => some response
  | _ => none

/-- The load status that an action on the list leads to. -/
def listStatus? : Action → Option LoadStatus
  | fetchJobsRequest _ => some .loading
  | fetchJobsSuccess _ _ => some .loaded
  | fetchJobsFailed _ => some .failed
  | _ => none

end Action

namespace Log

/-- The page and selector of the last list request; the first page of all jobs before any. -/
def key (log : List Action) : ListKey :=
  ((log.filterMap Action.requestedKey?).getLast?).getD ⟨1, none⟩

/-- Whether the list takes heed of an action that comes after this log: a request, or an
outcome for the page and selector that were requested last. -/
def heeds (log : List Action) : Action → Bool
  | .fetchJobsRequest _ => true
  | .fetchJobsSuccess asked _ => asked = key log
  | .fetchJobsFailed asked => asked = key log
  | _ => false

/-- The actions of `later` that the list takes heed of, after those of `earlier`. -/
def heededAfter (earlier : List Action) : List Action → List Action
  | [] => []
  | action :: later =>
      (if heeds earlier action then [action] else []) ++ heededAfter (earlier ++ [action]) later

/-- The actions that the list takes heed of. -/
def heeded (log : List Action) : List Action := heededAfter [] log

/-- The last list response that answered the request before it. -/
def response? (log : List Action) : Option JobList :=
  ((heeded log).filterMap Action.response?).getLast?

def job? (log : List Action) (name : String) : Option Job :=
  lastNamed? name (log.flatMap Action.jobs)

def status? (log : List Action) (name : String) : Option LoadStatus :=
  (log.filterMap (Action.statusFor? name)).getLast?

def list (log : List Action) : ListState where
  status := (((heeded log).filterMap Action.listStatus?).getLast?).getD .pending
  totalCount := ((response? log).map JobList.totalCount).getD 0
  key := key log
  names := ((response? log).map fun response => response.jobs.map Job.name).getD []

theorem heededAfter_concat (earlier later : List Action) (action : Action) :
    heededAfter earlier (later ++ [action]) =
      heededAfter earlier later ++ if heeds (earlier ++ later) action then [action] else [] := by
  induction later generalizing earlier with
  | nil => simp [heededAfter]
  | cons first rest ih => simp [heededAfter, ih]

theorem heeded_concat (log : List Action) (action : Action) :
    heeded (log ++ [action]) = heeded log ++ if heeds log action then [action] else [] := by
  rw [heeded, heededAfter_concat, List.nil_append]
  rfl

theorem key_concat (log : List Action) (action : Action) :
    key (log ++ [action]) = action.requestedKey?.getD (key log) := by
  cases action <;> simp [key, Action.requestedKey?]

theorem job?_concat (log : List Action) (action : Action) (name : String) :
    job? (log ++ [action]) name = (lastNamed? name action.jobs).or (job? log name) := by
  simp [job?, lastNamed?_append]

theorem status?_concat (log : List Action) (action : Action) (name : String) :
    status? (log ++ [action]) name = (action.statusFor? name).or (status? log name) := by
  rw [status?, List.filterMap_append, List.getLast?_append]
  cases decided : action.statusFor? name <;> simp [decided, status?]

/-- An action that the list takes no heed of leaves its reading as it was. -/
theorem list_concat_of_not_heeds {log : List Action} {action : Action}
    (ignored : heeds log action = false) : list (log ++ [action]) = list log := by
  have same : heeded (log ++ [action]) = heeded log := by simp [heeded_concat, ignored]
  have kept : key (log ++ [action]) = key log := by
    rw [key_concat]
    cases action with
    | fetchJobsRequest asked => cases ignored
    | fetchJobsSuccess | fetchJobsFailed | getJobRequest | getJobSuccess | getJobFailed => rfl
  simp [list, response?, same, kept]

theorem list_concat (log : List Action) (action : Action) :
    list (log ++ [action]) = (list log).after action := by
  cases action with
  | fetchJobsRequest asked =>
      simp [list, response?, heeded_concat, heeds, key_concat, ListState.after,
        Action.listStatus?, Action.response?, Action.requestedKey?]
  | fetchJobsSuccess asked response =>
      by_cases current : key log = asked
      · subst current
        simp [list, response?, heeded_concat, heeds, key_concat, ListState.after,
          Action.listStatus?, Action.response?, Action.requestedKey?]
      · rw [list_concat_of_not_heeds (by simpa [heeds] using Ne.symm current)]
        exact (if_neg current).symm
  | fetchJobsFailed asked =>
      by_cases current : key log = asked
      · subst current
        simp [list, response?, heeded_concat, heeds, key_concat, ListState.after,
          Action.listStatus?, Action.response?, Action.requestedKey?]
      · rw [list_concat_of_not_heeds (by simpa [heeds] using Ne.symm current)]
        exact (if_neg current).symm
  | getJobRequest asked => exact list_concat_of_not_heeds rfl
  | getJobSuccess job => exact list_concat_of_not_heeds rfl
  | getJobFailed asked => exact list_concat_of_not_heeds rfl

/-! ## What every log has in common -/

theorem mem_of_mem_heeded {log : List Action} {action : Action} (member : action ∈ heeded log) :
    action ∈ log := by
  induction log using List.reverseRecOn with
  | nil => cases member
  | append_singleton log last ih =>
      rw [heeded_concat, List.mem_append] at member
      rcases member with before | now
      · exact List.mem_append_left _ (ih before)
      · split at now
        · exact List.mem_append_right _ now
        · cases now

/-- The jobs of a log are those that some action of it brought. -/
theorem job?_isSome_iff {log : List Action} {name : String} :
    (job? log name).isSome = true ↔ ∃ action ∈ log, name ∈ action.jobs.map Job.name := by
  rw [job?, lastNamed?_isSome, List.map_flatMap, List.mem_flatMap]

theorem mem_jobs_of_loaded {action : Action} {name : String}
    (loaded : action.statusFor? name = some .loaded) : name ∈ action.jobs.map Job.name := by
  cases action with
  | getJobSuccess job =>
      simp only [Action.statusFor?, Option.ite_none_right_eq_some, and_true] at loaded
      simp [Action.jobs, loaded]
  | fetchJobsSuccess key response =>
      simp only [Action.statusFor?, Option.ite_none_right_eq_some, and_true] at loaded
      exact loaded
  | getJobRequest asked => simp [Action.statusFor?] at loaded
  | getJobFailed asked => simp [Action.statusFor?] at loaded
  | fetchJobsRequest key => cases loaded
  | fetchJobsFailed key => cases loaded

theorem job?_of_loaded {log : List Action} {name : String}
    (loaded : status? log name = some .loaded) : (job? log name).isSome = true := by
  obtain ⟨action, member, decided⟩ := List.mem_filterMap.mp (List.mem_of_getLast? loaded)
  exact job?_isSome_iff.mpr ⟨action, member, mem_jobs_of_loaded decided⟩

theorem job?_isSome_append {log : List Action} {name : String}
    (known : (job? log name).isSome = true) (more : List Action) :
    (job? (log ++ more) name).isSome = true := by
  obtain ⟨action, member, brought⟩ := job?_isSome_iff.mp known
  exact job?_isSome_iff.mpr ⟨action, List.mem_append_left _ member, brought⟩

/-- Every name of the list is the name of a job that is kept. -/
theorem job?_of_mem_names {log : List Action} {name : String}
    (listed : name ∈ (list log).names) : (job? log name).isSome = true := by
  cases answered : response? log with
  | none => simp [list, answered] at listed
  | some response =>
      simp only [list, answered, Option.map_some, Option.getD_some] at listed
      obtain ⟨action, member, brought⟩ := List.mem_filterMap.mp (List.mem_of_getLast? answered)
      refine job?_isSome_iff.mpr ⟨action, mem_of_mem_heeded member, ?_⟩
      cases action with
      | fetchJobsSuccess key other => cases brought; exact listed
      | fetchJobsRequest | fetchJobsFailed | getJobRequest | getJobSuccess | getJobFailed =>
          cases brought

end Log

namespace Store

/-- The store after these actions. -/
def replay (log : List Action) : Store := log.foldl dispatch empty

theorem replay_concat (log : List Action) (action : Action) :
    replay (log ++ [action]) = (replay log).dispatch action :=
  List.foldl_append

theorem job?_replay (log : List Action) (name : String) :
    (replay log).job? name = Log.job? log name := by
  induction log using List.reverseRecOn with
  | nil => rfl
  | append_singleton log action ih =>
      rw [replay_concat, job?_dispatch, Log.job?_concat, ih]

theorem status?_replay (log : List Action) (name : String) :
    (replay log).status? name = Log.status? log name := by
  induction log using List.reverseRecOn with
  | nil => rfl
  | append_singleton log action ih =>
      rw [replay_concat, status?_dispatch, Log.status?_concat, ih]

theorem list_replay (log : List Action) : (replay log).list = Log.list log := by
  induction log using List.reverseRecOn with
  | nil => rfl
  | append_singleton log action ih =>
      rw [replay_concat, list_dispatch, Log.list_concat, ih]

/-- When every name has a job of that name, looking the names up loses none. -/
theorem names_filterMap {find? : String → Option Job} {names : List String}
    (named : ∀ name job, find? name = some job → job.name = name)
    (known : ∀ name ∈ names, (find? name).isSome = true) :
    (names.filterMap find?).map Job.name = names := by
  induction names with
  | nil => rfl
  | cons name rest ih =>
      obtain ⟨job, found⟩ := Option.isSome_iff_exists.mp (known name List.mem_cons_self)
      rw [List.filterMap_cons_some found, List.map_cons, named name job found,
        ih fun other member => known other (List.mem_cons_of_mem _ member)]

/--
The store is what its log says. In every state that actions can reach, a job is kept under
its own name, a loaded status belongs to a job that is kept, no name is ever given up, and
the rows are the jobs of the names of the list, one for each.
-/
theorem store_reads_log (log : List Action) :
    (∀ name, (replay log).job? name = Log.job? log name) ∧
    (∀ name, (replay log).status? name = Log.status? log name) ∧
    (replay log).list = Log.list log ∧
    (∀ name job, (replay log).job? name = some job → job.name = name) ∧
    (∀ name, (replay log).status? name = some .loaded →
      ((replay log).job? name).isSome = true) ∧
    (∀ name more, ((replay log).job? name).isSome = true →
      ((replay (log ++ more)).job? name).isSome = true) ∧
    (replay log).rows.map Job.name = (replay log).list.names := by
  have named (name : String) (job : Job) (found : (replay log).job? name = some job) :
      job.name = name := by
    rw [job?_replay] at found
    exact name_of_lastNamed? found
  refine ⟨job?_replay log, status?_replay log, list_replay log, named, ?_, ?_, ?_⟩
  · intro name loaded
    rw [status?_replay] at loaded
    rw [job?_replay]
    exact Log.job?_of_loaded loaded
  · intro name more known
    rw [job?_replay] at known ⊢
    exact Log.job?_isSome_append known more
  · refine names_filterMap named fun name listed => ?_
    rw [list_replay] at listed
    rw [job?_replay]
    exact Log.job?_of_mem_names listed

end Store

end RunBoard.Jobs
