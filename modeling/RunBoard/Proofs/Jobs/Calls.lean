import Mathlib.Data.List.Induction
import RunBoard.Jobs.Session
import RunBoard.Proofs.Jobs.Dispatch

/-!
# Overlapping calls on the job store

Every start and every finish of a call is at most one action on the store. The list holds
the page and selector of the list call that started last, and only outcomes for these change
anything else of it.
-/

namespace RunBoard.Jobs

namespace Action

/-- The outcome of a list call, as an action. -/
def ofList (key : ListKey) : Came JobList → Action
  | some (.ok response) => fetchJobsSuccess key response
  | _ => fetchJobsFailed key

/-- The outcome of a call for one job, as an action. -/
def ofJob (name : String) : Came Job → Action
  | some (.ok job) => getJobSuccess job
  | _ => getJobFailed name

end Action

namespace Store

theorem finishList_store (store : Store) (key : ListKey) (came : Came JobList) :
    (store.finishList key came).2 = store.dispatch (.ofList key came) := by
  match came with
  | some (.ok response) => rfl
  | some (.error error) => rfl
  | none => rfl

theorem finishJob_store (store : Store) (name : String) (came : Came Job) :
    (store.finishJob name came).2 = store.dispatch (.ofJob name came) := by
  match came with
  | some (.ok job) => rfl
  | some (.error error) => rfl
  | none => rfl

end Store

/-- The number and the key of the list call that an event starts. -/
def CallEvent.startedList? : CallEvent → Option (Nat × ListKey)
  | start number (.list key) => some (number, key)
  | _ => none

namespace Session

/-- The action that an event is for the store; none when the job is at hand already or no
such call waits. -/
def action? (session : Session) : CallEvent → Option Action
  | .start _ (.list key) => some (.fetchJobsRequest key)
  | .start _ (.job name) =>
      if session.store.isCachedTerminal name then none else some (.getJobRequest name)
  | .finishList number came =>
      match session.call? number with
      | some (.list key) => some (.ofList key came)
      | _ => none
  | .finishJob number came =>
      match session.call? number with
      | some (.job name) => some (.ofJob name came)
      | _ => none

/-- The session after these events. -/
def after (session : Session) (events : List CallEvent) : Session :=
  events.foldl (fun session event => (session.step event).2) session

theorem after_concat (session : Session) (events : List CallEvent) (event : CallEvent) :
    session.after (events ++ [event]) = ((session.after events).step event).2 :=
  List.foldl_append

/-- A turn is one action on the store, or none. -/
theorem store_step (session : Session) (event : CallEvent) :
    (session.step event).2.store =
      match session.action? event with
      | some action => session.store.dispatch action
      | none => session.store := by
  cases event with
  | start number call =>
      cases call with
      | list key => rfl
      | job name =>
          cases cached : session.store.isCachedTerminal name <;>
            simp [step, action?, Store.beginJob?, cached]
  | finishList number came =>
      cases waiting : session.call? number with
      | none => simp [step, action?, waiting]
      | some call =>
          cases call with
          | list key => simp [step, action?, waiting, close, Store.finishList_store]
          | job name => simp [step, action?, waiting]
  | finishJob number came =>
      cases waiting : session.call? number with
      | none => simp [step, action?, waiting]
      | some call =>
          cases call with
          | list key => simp [step, action?, waiting]
          | job name => simp [step, action?, waiting, close, Store.finishJob_store]

theorem list_step (session : Session) (event : CallEvent) :
    (session.step event).2.store.list =
      match session.action? event with
      | some action => session.store.list.after action
      | none => session.store.list := by
  rw [store_step]
  cases session.action? event with
  | none => rfl
  | some action => exact Store.list_dispatch ..

end Session

namespace ListState

/-- The list after the outcome of a call for its own page and selector. -/
def answered (list : ListState) : Came JobList → ListState
  | some (.ok response) => ⟨.loaded, response.totalCount, list.key, response.jobs.map Job.name⟩
  | _ => { list with status := .failed }

theorem after_ofList_self (list : ListState) (came : Came JobList) :
    list.after (.ofList list.key came) = list.answered came := by
  match came with
  | some (.ok response) => exact if_pos rfl
  | some (.error error) => exact if_pos rfl
  | none => exact if_pos rfl

theorem after_ofList_of_ne {list : ListState} {key : ListKey} (other : key ≠ list.key)
    (came : Came JobList) : list.after (.ofList key came) = list := by
  match came with
  | some (.ok response) => exact if_neg other.symm
  | some (.error error) => exact if_neg other.symm
  | none => exact if_neg other.symm

theorem after_ofJob (list : ListState) (name : String) (came : Came Job) :
    list.after (.ofJob name came) = list := by
  match came with
  | some (.ok job) => rfl
  | some (.error error) => rfl
  | none => rfl

theorem key_answered (list : ListState) (came : Came JobList) :
    (list.answered came).key = list.key := by
  match came with
  | some (.ok response) => rfl
  | some (.error error) => rfl
  | none => rfl

end ListState

namespace Session

/-- What a turn can do to the list: a list call starts, one for the page and selector of the
list finishes, or the list stays as it is. -/
inductive ListTurn (session : Session) : CallEvent → ListState → Prop where
  | start (number : Nat) (key : ListKey) :
      ListTurn session (.start number (.list key))
        { session.store.list with status := .loading, key := key }
  | finish {number : Nat} (came : Came JobList)
      (waiting : session.call? number = some (.list session.store.list.key)) :
      ListTurn session (.finishList number came) (session.store.list.answered came)
  | rest {event : CallEvent} (other : event.startedList? = none) :
      ListTurn session event session.store.list

theorem listTurn_step (session : Session) (event : CallEvent) :
    ListTurn session event (session.step event).2.store.list := by
  rw [list_step]
  cases event with
  | start number call =>
      cases call with
      | list key => exact .start number key
      | job name =>
          cases cached : session.store.isCachedTerminal name <;>
            simpa [action?, cached] using .rest rfl
  | finishList number came =>
      simp only [action?]
      split
      · next action found =>
          split at found
          · next key waiting =>
              cases found
              by_cases current : key = session.store.list.key
              · subst current
                rw [ListState.after_ofList_self]
                exact .finish came waiting
              · rw [ListState.after_ofList_of_ne current]
                exact .rest rfl
          · cases found
      · exact .rest rfl
  | finishJob number came =>
      simp only [action?]
      split
      · next action found =>
          split at found
          · cases found
            rw [ListState.after_ofJob]
            exact .rest rfl
          · cases found
      · exact .rest rfl

/-- The list shows the page and selector of the list call that started last. -/
theorem key_after {session : Session} {events : List CallEvent} {number : Nat} {key : ListKey}
    (newest : (events.filterMap CallEvent.startedList?).getLast? = some (number, key)) :
    (session.after events).store.list.key = key := by
  induction events using List.reverseRecOn with
  | nil => cases newest
  | append_singleton events event ih =>
      have turn := (session.after events).listTurn_step event
      rw [after_concat]
      rw [List.filterMap_append, List.getLast?_append] at newest
      generalize ((session.after events).step event).2.store.list = next at turn ⊢
      cases turn with
      | start other asked => exact (Prod.mk.inj (Option.some.inj newest)).2
      | finish came waiting =>
          rw [ListState.key_answered]
          exact ih newest
      | rest other =>
          rw [List.filterMap_cons_none other] at newest
          exact ih newest

/-- A call that waits was waiting before the turn or starts in it. -/
theorem waiting_step {session : Session} {event : CallEvent} {number : Nat} {call : Call}
    (present : (number, call) ∈ (session.step event).2.waiting) :
    (number, call) ∈ session.waiting ∨ event = .start number call := by
  cases event with
  | start other asked =>
      cases asked with
      | list key =>
          rcases List.mem_append.1 present with old | new
          · exact .inl old
          · cases List.mem_singleton.1 new
            exact .inr rfl
      | job name =>
          simp only [step] at present
          split at present
          · exact .inl present
          · rcases List.mem_append.1 present with old | new
            · exact .inl old
            · cases List.mem_singleton.1 new
              exact .inr rfl
  | finishList other came =>
      simp only [step] at present
      split at present
      · exact .inl ((List.mem_filter.1 present).1)
      · exact .inl present
  | finishJob other came =>
      simp only [step] at present
      split at present
      · exact .inl ((List.mem_filter.1 present).1)
      · exact .inl present

theorem started_of_waiting {store : Store} {events : List CallEvent} {number : Nat} {call : Call}
    (present : (number, call) ∈ ((new store).after events).waiting) :
    .start number call ∈ events := by
  induction events using List.reverseRecOn with
  | nil => cases present
  | append_singleton events event ih =>
      rw [after_concat] at present
      rcases waiting_step present with old | rfl
      · exact List.mem_append_left _ (ih old)
      · exact List.mem_append_right _ (List.mem_singleton.2 rfl)

theorem started_of_call? {store : Store} {events : List CallEvent} {number : Nat} {call : Call}
    (waiting : ((new store).after events).call? number = some call) :
    .start number call ∈ events := by
  obtain ⟨before, later, split, -⟩ := List.lookup_eq_some_iff.1 waiting
  exact started_of_waiting (split ▸ List.mem_append_right _ List.mem_cons_self)

/--
Once a list call has started and until another one does, the list changes only by the
outcome of a call for the same page and selector, be it that call or an older one. Every
such outcome is taken as an answer; the outcome of a call for another page or selector
leaves the list as it is.
-/
theorem list_changes_only_for_newest_key (store : Store) (events : List CallEvent)
    (latest : Nat) (key : ListKey)
    (newest : (events.filterMap CallEvent.startedList?).getLast? = some (latest, key)) :
    let session := (Session.new store).after events
    session.store.list.key = key ∧
    (∀ event, event.startedList? = none →
      (session.step event).2.store.list ≠ session.store.list →
      ∃ number came, event = .finishList number came ∧
        session.call? number = some (.list key) ∧ .start number (.list key) ∈ events) ∧
    (∀ number came other, session.call? number = some (.list other) → other ≠ key →
      (session.step (.finishList number came)).2.store.list = session.store.list) ∧
    (∀ number came, session.call? number = some (.list key) →
      (session.step (.finishList number came)).2.store.list =
        session.store.list.answered came) := by
  intro session
  have current : session.store.list.key = key := key_after newest
  refine ⟨current, ?_, ?_, ?_⟩
  · intro event quiet changed
    have turn := session.listTurn_step event
    generalize (session.step event).2.store.list = next at turn changed
    cases turn with
    | start number asked => cases quiet
    | @finish number came waiting =>
        rw [current] at waiting
        exact ⟨number, came, rfl, waiting, started_of_call? waiting⟩
    | rest other => exact absurd rfl changed
  · intro number came other waiting different
    rw [list_step]
    simp only [action?, waiting]
    exact ListState.after_ofList_of_ne (fun same => different (same.trans current)) came
  · intro number came waiting
    rw [list_step]
    simp only [action?, waiting]
    rw [← current, ListState.after_ofList_self]

/-- The answer for the first page, late, leaves the second page as it is. -/
theorem late_page_is_not_shown :
    let events : List CallEvent := [.start 0 (.list ⟨1, none⟩), .start 1 (.list ⟨2, none⟩)]
    let session := (Session.new .empty).after events
    (events.filterMap CallEvent.startedList?).getLast? = some (1, ⟨2, none⟩) ∧
    (session.step (.finishList 0 (some (.ok ⟨[], 31⟩)))).2.store.list = session.store.list :=
  ⟨rfl, (list_changes_only_for_newest_key .empty _ 1 ⟨2, none⟩ rfl).2.2.1 0 _ ⟨1, none⟩ rfl
    (by decide)⟩

/--
The newest call is not told from an older one for the same page: when the first page is
left and asked for again, the older answer for it is shown.
-/
theorem older_call_for_newest_key_is_shown :
    ¬ ∀ (store : Store) (events : List CallEvent) (latest number : Nat) (key : ListKey)
        (came : Came JobList),
      ((events.filterMap CallEvent.startedList?).map Prod.fst).Nodup →
      (events.filterMap CallEvent.startedList?).getLast? = some (latest, key) →
      number ≠ latest →
      (((Session.new store).after events).step (.finishList number came)).2.store.list =
        ((Session.new store).after events).store.list := by
  intro unchanged
  have kept := unchanged .empty
    [.start 0 (.list ⟨1, none⟩), .start 1 (.list ⟨2, none⟩), .start 2 (.list ⟨1, none⟩)]
    2 0 ⟨1, none⟩ (some (.ok ⟨[], 31⟩)) (by decide) rfl (by decide)
  have status : LoadStatus.loaded = .loading := congrArg ListState.status kept
  cases status

end Session

end RunBoard.Jobs
