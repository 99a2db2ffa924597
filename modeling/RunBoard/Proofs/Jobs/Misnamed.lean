import RunBoard.Proofs.Jobs.Completed
import RunBoard.Proofs.Jobs.Settling

/-!
# Jobs that come under another name

A call for a job marks the name that it asks for, and its answer settles the name that the
job in the answer has. As long as the two are the same, a job that has been fetched is there,
and no name stays marked once every call has finished. An answer under another name breaks
both, and nothing else does.
-/

namespace RunBoard.Jobs

/-- Whether the store has a job under a name, with that name loaded. -/
def Store.HasLoaded (store : Store) (name : String) : Prop :=
  store.status? name = some .loaded ∧ (store.job? name).isSome = true

instance (store : Store) (name : String) : Decidable (store.HasLoaded name) :=
  inferInstanceAs (Decidable (_ ∧ _))

theorem Store.hasLoaded_getJobSuccess (store : Store) (copy : Job) (name : String) :
    (store.dispatch (.getJobSuccess copy)).HasLoaded name ↔
      copy.name = name ∨ store.HasLoaded name := by
  rw [HasLoaded, status?_dispatch, job?_dispatch]
  by_cases same : copy.name = name <;>
    simp [HasLoaded, Action.statusFor?, Action.jobs, lastNamed?_singleton, same]

namespace Session

/-! ## What is said of a name -/

/-- The load status that an event gives to a job of this name, if it mentions one. -/
def mark? (session : Session) (name : String) (event : CallEvent) : Option LoadStatus :=
  (session.action? event).bind (Action.statusFor? name)

/-- Every load status that events give to a job of this name, in order. -/
def marks (session : Session) (name : String) : List CallEvent → List LoadStatus
  | [] => []
  | event :: later =>
      (session.mark? name event).toList ++ (session.step event).2.marks name later

theorem marks_concat (session : Session) (name : String) (events : List CallEvent)
    (event : CallEvent) :
    session.marks name (events ++ [event]) =
      session.marks name events ++ ((session.after events).mark? name event).toList := by
  induction events generalizing session with
  | nil => simp [marks, after]
  | cons first rest ih =>
      rw [List.cons_append, marks, marks, ih, List.append_assoc]
      rfl

theorem status?_step (session : Session) (event : CallEvent) (name : String) :
    (session.step event).2.store.status? name =
      (session.mark? name event).or (session.store.status? name) := by
  rw [store_step, mark?]
  cases session.action? event with
  | none => rfl
  | some action => exact Store.status?_dispatch ..

/-- Events that do not speak of a name leave its status as it was. -/
theorem status?_after_of_unmarked {session : Session} {name : String} {events : List CallEvent}
    (unmarked : session.marks name events = []) :
    (session.after events).store.status? name = session.store.status? name := by
  induction events using List.reverseRecOn with
  | nil => rfl
  | append_singleton events event ih =>
      rw [marks_concat, List.append_eq_nil_iff, Option.toList_eq_nil_iff] at unmarked
      rw [after_concat, status?_step, unmarked.2, Option.none_or]
      exact ih unmarked.1

/-- Only the start of a call for a job marks it as on its way. -/
theorem start_of_mark?_loading {session : Session} {name : String} {event : CallEvent}
    (marked : session.mark? name event = some .loading) :
    ∃ number, (number, .job name) ∈ (session.step event).2.waiting := by
  cases event with
  | start number call =>
      cases call with
      | list key => cases marked
      | job asked =>
          cases cached : session.store.isCachedTerminal asked with
          | true => simp [mark?, action?, cached] at marked
          | false =>
              obtain rfl : asked = name := by
                simpa [mark?, action?, cached, Action.statusFor?] using marked
              refine ⟨number, ?_⟩
              simp [step, Store.beginJob?, cached]
  | finishList number came =>
      simp only [mark?, action?] at marked
      split at marked
      · rcases came with _ | error | response
        · cases marked
        · cases marked
        · simp [Action.ofList, Action.statusFor?] at marked
      · cases marked
  | finishJob number came =>
      simp only [mark?, action?] at marked
      split at marked
      · rcases came with _ | error | copy <;> simp [Action.ofJob, Action.statusFor?] at marked
      · cases marked

/-- An outcome of a call for a job speaks of that job, unless it is a job of another name. -/
theorem mark?_finishJob {session : Session} {number : Nat} {name : String}
    (waiting : session.call? number = some (.job name)) {came : Came Job}
    (unmarked : session.mark? name (.finishJob number came) = none) :
    ∃ copy, came = some (.ok copy) ∧ copy.name ≠ name := by
  simp only [mark?, action?, waiting, Option.bind_some] at unmarked
  rcases came with _ | error | copy
  · simp [Action.ofJob, Action.statusFor?] at unmarked
  · simp [Action.ofJob, Action.statusFor?] at unmarked
  · refine ⟨copy, rfl, ?_⟩
    rintro rfl
    simp [Action.ofJob, Action.statusFor?] at unmarked

/-! ## Names that stay marked -/

/-- Whether a call for a job of this name, while it was marked as on its way, was answered by
a job of another name, and nothing has been said of it since. -/
def Stranded (session : Session) (name : String) (events : List CallEvent) : Prop :=
  ∃ front number copy back,
    events = front ++ .finishJob number (some (.ok copy)) :: back ∧
    (session.after front).call? number = some (.job name) ∧ copy.name ≠ name ∧
    (session.after front).store.status? name = some .loading ∧
    (session.after (front ++ [.finishJob number (some (.ok copy))])).marks name back = []

theorem Stranded.concat {session : Session} {name : String} {events : List CallEvent}
    (stranded : session.Stranded name events) {event : CallEvent}
    (unmarked : (session.after events).mark? name event = none) :
    session.Stranded name (events ++ [event]) := by
  obtain ⟨front, number, copy, back, rfl, waiting, other, loading, silent⟩ := stranded
  refine ⟨front, number, copy, back ++ [event], by simp, waiting, other, loading, ?_⟩
  rw [marks_concat, silent, ← after_append, List.append_assoc, List.singleton_append, unmarked]
  rfl

/-- A name that is stranded is still marked as on its way. -/
theorem Stranded.loading {session : Session} {name : String} {events : List CallEvent}
    (stranded : session.Stranded name events) :
    (session.after events).store.status? name = some .loading := by
  obtain ⟨front, number, copy, back, rfl, waiting, other, loading, silent⟩ := stranded
  have passed : (session.after front).mark? name (.finishJob number (some (.ok copy))) = none := by
    simp [mark?, action?, waiting, Action.ofJob, Action.statusFor?, other]
  rw [← List.singleton_append, ← List.append_assoc, after_append, status?_after_of_unmarked silent,
    after_concat, status?_step, passed, Option.none_or, loading]

/-- A name that is marked as on its way is waited for, or it is stranded. -/
theorem waits_or_stranded {store : Store} {name : String}
    (idle : store.status? name ≠ some .loading) {events : List CallEvent}
    (numbered : Numbered events)
    (loading : ((new store).after events).store.status? name = some .loading) :
    (∃ number, (number, .job name) ∈ ((new store).after events).waiting) ∨
      (new store).Stranded name events := by
  induction events using List.reverseRecOn with
  | nil => exact absurd loading idle
  | append_singleton events event ih =>
      have distinct := distinct_after store numbered.left
      rw [after_concat, status?_step] at loading
      cases marked : ((new store).after events).mark? name event with
      | some status =>
          rw [marked] at loading
          cases loading
          left
          rw [after_concat]
          exact start_of_mark?_loading marked
      | none =>
          rw [marked, Option.none_or] at loading
          rcases ih numbered.left loading with ⟨number, waits⟩ | stranded
          · rcases waits_on distinct waits event with still | ⟨_, _, other, _⟩ | ⟨_, came, same, rfl⟩
            · left
              rw [after_concat]
              exact ⟨number, still⟩
            · cases other
            · cases same
              have waiting := call?_of_mem distinct waits
              obtain ⟨copy, rfl, other⟩ := mark?_finishJob waiting marked
              exact .inr ⟨events, number, copy, [], rfl, waiting, other, loading, rfl⟩
          · exact .inr (stranded.concat marked)

/-- A call that fetches is a call for a job that is answered by one. -/
theorem finish_of_fetched {session : Session} {event : CallEvent}
    (fetched : (session.step event).1 = some .fetched) :
    ∃ number name copy, event = .finishJob number (some (.ok copy)) ∧
      session.call? number = some (.job name) ∧
      (session.step event).2.store = session.store.dispatch (.getJobSuccess copy) := by
  cases event with
  | start number call =>
      cases call with
      | list key => cases fetched
      | job name =>
          simp only [step] at fetched
          split at fetched <;> cases fetched
  | finishList number came =>
      simp only [step] at fetched
      split at fetched
      · rcases came with _ | error | response <;> cases fetched
      · cases fetched
  | finishJob number came =>
      cases waiting : session.call? number with
      | none => simp [step, waiting] at fetched
      | some call =>
          cases call with
          | list key => simp [step, waiting] at fetched
          | job name =>
              simp only [step, waiting] at fetched
              rcases came with _ | error | copy
              · cases fetched
              · cases fetched
              · refine ⟨number, name, copy, rfl, waiting, ?_⟩
                simp [step, waiting, close, Store.finishJob]

/--
A call that fetches a job leaves the store with the job that came, loaded under its own name.
Under the name that was asked for there is a loaded job then exactly when that is the name of
the job that came, or one was loaded under it already. When no call is under way, the names
that are marked as on their way are those that are stranded.
-/
theorem fetched_job_is_there_unless_misnamed (store : Store)
    (idle : ∀ name, store.status? name ≠ some .loading) (events : List CallEvent)
    (numbered : Numbered events) :
    let session := (new store).after events
    (∀ event, (session.step event).1 = some .fetched →
      ∃ number name copy, event = .finishJob number (some (.ok copy)) ∧
        session.call? number = some (.job name) ∧
        (session.step event).2.store.HasLoaded copy.name ∧
        ((session.step event).2.store.HasLoaded name ↔
          copy.name = name ∨ session.store.HasLoaded name)) ∧
    (session.waiting = [] → ∀ name,
      session.store.status? name = some .loading ↔ (new store).Stranded name events) := by
  intro session
  constructor
  · intro event fetched
    obtain ⟨number, name, copy, same, waiting, stored⟩ := finish_of_fetched fetched
    refine ⟨number, name, copy, same, waiting, ?_, ?_⟩
    · rw [stored, Store.hasLoaded_getJobSuccess]
      exact .inl rfl
    · rw [stored, Store.hasLoaded_getJobSuccess]
  · intro none name
    refine ⟨fun loading => ?_, Stranded.loading⟩
    refine (waits_or_stranded (idle name) numbered loading).resolve_left ?_
    rintro ⟨number, waits⟩
    rw [show ((new store).after events).waiting = [] from none] at waits
    cases waits

/-- The jobs `a` and `c` are asked for and the gateway answers with `b` and `c`: with both
calls finished `a` is still marked, and `c` is there. -/
theorem job_answered_by_another_stays_marked :
    let events : List CallEvent :=
      [.start 0 (.job "a"), .start 1 (.job "c"), .finishJob 0 (some (.ok (Traffic.doneCopy "b")))]
    let last : CallEvent := .finishJob 1 (some (.ok (Traffic.doneCopy "c")))
    let session := (new .empty).after (events ++ [last])
    session.store.HasLoaded "c" ∧
    (new .empty).Stranded "a" (events ++ [last]) ∧ ¬ (new .empty).Stranded "c" (events ++ [last]) := by
  intro events last session
  have numbered : Numbered (events ++ [last]) := by decide
  have idle : ∀ name, Store.empty.status? name ≠ some .loading := fun _ marked => by cases marked
  have stranded := (fetched_job_is_there_unless_misnamed .empty idle _ numbered).2 rfl
  obtain ⟨_, _, _, same, -, there, -⟩ :=
    (fetched_job_is_there_unless_misnamed .empty idle events numbered.left).1 last rfl
  obtain ⟨-, rfl⟩ : 1 = _ ∧ Traffic.doneCopy "c" = _ := by simpa [last] using same
  exact ⟨there, (stranded "a").mp (by decide), mt (stranded "c").mpr (by decide)⟩

/-- The job `a` is asked for and the gateway answers with the job `b`: the call has fetched,
yet there is no job `a`, and with no call under way its name stays marked. -/
theorem fetched_job_missing_under_other_name :
    (¬ ∀ (store : Store) (events : List CallEvent),
      (∀ name, store.status? name ≠ some .loading) → Numbered events →
      let session := (new store).after events
      ∀ number name came, session.call? number = some (.job name) →
        (session.step (.finishJob number came)).1 = some .fetched →
        (session.step (.finishJob number came)).2.store.HasLoaded name) ∧
    ¬ ∀ (store : Store) (events : List CallEvent),
      (∀ name, store.status? name ≠ some .loading) → Numbered events →
      let session := (new store).after events
      session.waiting = [] → ∀ name, session.store.status? name ≠ some .loading := by
  have idle : ∀ name, Store.empty.status? name ≠ some .loading := fun _ marked => by cases marked
  constructor
  · intro loads
    have missing := loads .empty [.start 0 (.job "a")] idle (by decide) 0 "a"
      (some (.ok (Traffic.doneCopy "b"))) rfl rfl
    revert missing
    decide
  · intro unmarks
    exact unmarks .empty [.start 0 (.job "a"), .finishJob 0 (some (.ok (Traffic.doneCopy "b")))]
      idle (by decide) rfl "a" (by decide)

end Session

end RunBoard.Jobs
