import RunBoard.Proofs.Jobs.Dispatch

/-!
# Actions that leave each other alone

A store is what can be read of it: the status of each name, the job of each name, and the
list. An action on one job writes at the name of that job only and never looks at anything, so
it can change places with any action that does not mention the name. An action says outright
what it leaves behind, so saying it again adds nothing.
-/

namespace RunBoard.Jobs

namespace Action

/-- Whether an action mentions a job of this name. -/
def Mentions (name : String) : Action → Prop
  | getJobRequest asked | getJobFailed asked => asked = name
  | getJobSuccess job => job.name = name
  | fetchJobsSuccess _ response => name ∈ response.jobs.map Job.name
  | fetchJobsRequest _ | fetchJobsFailed _ => False

/-- Whether an action is one of a call for the job of this name. -/
def IsAbout (name : String) : Action → Prop
  | getJobRequest asked | getJobFailed asked => asked = name
  | getJobSuccess job => job.name = name
  | fetchJobsRequest _ | fetchJobsSuccess _ _ | fetchJobsFailed _ => False

variable {action : Action} {name other : String}

theorem eq_of_isAbout_of_mentions (about : action.IsAbout name) (mentions : action.Mentions other) :
    name = other := by
  cases action with
  | getJobRequest | getJobFailed | getJobSuccess => exact about.symm.trans mentions
  | fetchJobsRequest | fetchJobsSuccess | fetchJobsFailed => exact about.elim

theorem statusFor?_eq_none_iff : action.statusFor? name = none ↔ ¬ action.Mentions name := by
  cases action <;> simp [statusFor?, Mentions]

/-- The jobs that an action brings have names that it mentions. -/
theorem lastNamed?_jobs_eq_none (unmentioned : ¬ action.Mentions name) :
    lastNamed? name action.jobs = none := by
  have missing : name ∉ action.jobs.map Job.name := by
    cases action with
    | fetchJobsSuccess key response => exact unmentioned
    | getJobSuccess job => simpa [jobs, Mentions, eq_comm] using unmentioned
    | fetchJobsRequest | fetchJobsFailed | getJobRequest | getJobFailed => simp [jobs]
  rw [← Option.not_isSome_iff_eq_none, lastNamed?_isSome]
  exact missing

end Action

/-! ## The list -/

namespace ListState

variable (list : ListState)

theorem after_of_isAbout {action : Action} {name : String} (about : action.IsAbout name) :
    list.after action = list := by
  cases action with
  | getJobRequest | getJobFailed | getJobSuccess => rfl
  | fetchJobsRequest | fetchJobsSuccess | fetchJobsFailed => exact about.elim

/-- An outcome for the list leaves its page and selector alone, so it counts the second time
exactly when it has counted the first time. -/
theorem after_after (action : Action) : (list.after action).after action = list.after action := by
  cases action with
  | fetchJobsSuccess key response =>
      by_cases current : list.key = key <;> simp [after, current]
  | fetchJobsFailed key =>
      by_cases current : list.key = key <;> simp [after, current]
  | fetchJobsRequest | getJobRequest | getJobSuccess | getJobFailed => rfl

end ListState

/-! ## The store -/

namespace Store

/-- A store is what can be read of it. -/
theorem ext_reads {first second : Store}
    (statuses : ∀ name, first.status? name = second.status? name)
    (jobs : ∀ name, first.job? name = second.job? name) (lists : first.list = second.list) :
    first = second := by
  obtain ⟨status, entities, list⟩ := first
  obtain ⟨status', entities', list'⟩ := second
  obtain rfl : status = status' := KeyMap.ext_get? statuses
  obtain rfl : entities = entities' := KeyMap.ext_get? jobs
  obtain rfl : list = list' := lists
  rfl

/-- Two writes to one place do not come in each other's way when one of them is none. -/
theorem or_or_comm {α : Type} {first second : Option α} (apart : first = none ∨ second = none)
    (known : Option α) : first.or (second.or known) = second.or (first.or known) := by
  rcases apart with rfl | rfl <;> simp

section Pairs

variable {first second : Action} {name : String} (about : first.IsAbout name)
  (unmentioned : ¬ second.Mentions name)

include about unmentioned

/-- At no name do both actions write. -/
theorem unmentioned_or (other : String) : ¬ second.Mentions other ∨ ¬ first.Mentions other := by
  by_cases mentioned : first.Mentions other
  · left
    rwa [← Action.eq_of_isAbout_of_mentions about mentioned]
  · exact .inr mentioned

theorem dispatch_comm (store : Store) :
    (store.dispatch first).dispatch second = (store.dispatch second).dispatch first := by
  refine ext_reads ?statuses ?jobs ?list
  case statuses =>
    intro other
    simp only [status?_dispatch]
    refine or_or_comm ?_ _
    simpa only [Action.statusFor?_eq_none_iff] using unmentioned_or about unmentioned other
  case jobs =>
    intro other
    simp only [job?_dispatch]
    refine or_or_comm ?_ _
    exact (unmentioned_or about unmentioned other).imp Action.lastNamed?_jobs_eq_none
      Action.lastNamed?_jobs_eq_none
  case list =>
    simp only [list_dispatch, ListState.after_of_isAbout _ about]

end Pairs

theorem dispatch_dispatch (store : Store) (action : Action) :
    (store.dispatch action).dispatch action = store.dispatch action := by
  refine ext_reads ?statuses ?jobs ?list
  case statuses =>
    intro name
    simp only [status?_dispatch, ← Option.or_assoc, Option.or_self]
  case jobs =>
    intro name
    simp only [job?_dispatch, ← Option.or_assoc, Option.or_self]
  case list =>
    simp only [list_dispatch, ListState.after_after]

/-- An action on a job changes places with any action that does not mention the job, and an
action that is repeated at once changes nothing, whatever the store is. -/
theorem unrelated_actions_commute_and_repeats_are_harmless (store : Store) :
    (∀ (name : String) (first second : Action), first.IsAbout name → ¬ second.Mentions name →
      (store.dispatch first).dispatch second = (store.dispatch second).dispatch first) ∧
    ∀ action : Action, (store.dispatch action).dispatch action = store.dispatch action := by
  constructor
  · intro name first second about unmentioned
    exact dispatch_comm about unmentioned store
  · exact store.dispatch_dispatch

/-- A detail of one job and a page that has another one twice, of which the list takes heed, may
come in either order. -/
theorem detail_commutes_with_page :
    let job (name : String) (state : JobState) : Job :=
      ⟨name, .empty, ⟨state, .epoch, none⟩, 0, []⟩
    let detail : Action := .getJobSuccess (job "a" .running)
    let page : Action :=
      .fetchJobsSuccess ⟨1, none⟩ ⟨[job "b" .running, job "c" .lost, job "b" .successful], 3⟩
    detail.IsAbout "a" ∧ ¬ page.Mentions "a" ∧
      (empty.dispatch detail).dispatch page = (empty.dispatch page).dispatch detail := by
  intro job detail page
  have about : detail.IsAbout "a" := rfl
  have unmentioned : ¬ page.Mentions "a" := by
    change "a" ∉ ["b", "c", "b"]
    decide
  exact ⟨about, unmentioned,
    (unrelated_actions_commute_and_repeats_are_harmless empty).1 "a" detail page about unmentioned⟩

end Store

end RunBoard.Jobs
