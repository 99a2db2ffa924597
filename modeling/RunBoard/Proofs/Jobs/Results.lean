import RunBoard.Proofs.Jobs.Settling

/-!
# What a list call tells

A list call that is answered tells the status that the list has then. That is the status of what
is shown, be it the answer to this call or not: while a later call for another page or selector
has had no answer, the call tells that the list is loading, and when that one has been answered,
it tells what that answer has come to.
-/

namespace RunBoard.Jobs

namespace ListState

variable {list : ListState} (loading : list.status = .loading) (answers : List (Came JobList))

include loading

/-- A list that was loading is loading until an answer comes. -/
theorem loading_foldl_answered_iff :
    (answers.foldl answered list).status = .loading ↔ answers = [] := by
  induction answers using List.reverseRecOn with
  | nil => exact ⟨fun _ => rfl, fun _ => loading⟩
  | append_singleton front came _ =>
    rw [List.foldl_append]
    constructor
    · intro still
      rcases status_answered (front.foldl answered list) came with done | done
      · cases done.symm.trans still
      · cases done.symm.trans still
    · intro nothing
      exact absurd nothing (List.append_ne_nil_of_right_ne_nil _ (List.cons_ne_nil _ _))

/-- It is loaded when the last answer was a success. -/
theorem loaded_foldl_answered_iff :
    (answers.foldl answered list).status = .loaded ↔
      ∃ response, answers.getLast? = some (some (.ok response)) := by
  induction answers using List.reverseRecOn with
  | nil => simp [loading]
  | append_singleton front came _ =>
    rw [List.foldl_append, List.getLast?_concat]
    simp only [List.foldl_cons, List.foldl_nil, loaded_answered_iff, Option.some.injEq]

omit loading in
/-- After a success the list shows what came with it. -/
theorem foldl_answered_of_last {response : JobList}
    (last : answers.getLast? = some (some (.ok response))) :
    answers.foldl answered list =
      ⟨.loaded, response.totalCount, list.key, response.jobs.map Job.name⟩ := by
  obtain ⟨front, rfl⟩ := List.getLast?_eq_some_iff.1 last
  rw [List.foldl_append, List.foldl_cons, List.foldl_nil, answered, Session.key_foldl_answered]

end ListState

namespace Session

/-- An answered list call tells the status that the list has with its answer. -/
theorem told_of_finishList {session : Session} {number : Nat} {key : ListKey}
    (waiting : session.call? number = some (.list key)) (response : JobList) :
    let turn := session.step (.finishList number (some (.ok response)))
    turn.1 = some (.listed turn.2.store.list.status) ∧
    turn.2.store.list = session.store.list.after (.fetchJobsSuccess key response) := by
  constructor
  · simp only [step, waiting, close, Store.finishList]
  · rw [list_step]
    simp only [action?, waiting, Action.ofList]

/-- A list call waits only when one has started. -/
theorem asked_of_waiting {store : Store} {events : List CallEvent} {number : Nat} {key : ListKey}
    (waiting : ((new store).after events).call? number = some (.list key)) :
    events.filterMap CallEvent.startedList? ≠ [] := by
  intro never
  have started := List.filterMap_eq_nil_iff.1 never _ (started_of_call? waiting)
  cases started

/-- From the start of a list call on, and until another one starts, the list is what the answers
for its page and selector make of a list that is loading. -/
theorem list_since_start (store : Store) (before : List CallEvent) (number : Nat) (key : ListKey)
    {later : List CallEvent} (quiet : later.filterMap CallEvent.startedList? = []) :
    ((new store).after (before ++ .start number (.list key) :: later)).store.list =
      (((new store).after (before ++ [.start number (.list key)])).answers key later).foldl
        ListState.answered
        { ((new store).after before).store.list with status := .loading, key := key } := by
  have begun : ((new store).after (before ++ [.start number (.list key)])).store.list =
      { ((new store).after before).store.list with status := .loading, key := key } := by
    rw [after_concat]
    rfl
  have since := list_after_quiet ((new store).after (before ++ [.start number (.list key)])) quiet
  rwa [← after_append, List.append_assoc, List.singleton_append, begun] at since

/-- A list call is answered. What is shown is the list of the page and selector that were asked
for last. If these are its own, the answer is shown, and the call tells that the list is loaded.
If not, the list stays as it is: as the last answer has left it that came for them since they were
asked for last. The call then tells that the list is loading exactly when there was none, and
that it is loaded exactly when that was a success. -/
theorem answered_call_tells_what_is_shown (store : Store) (events : List CallEvent)
    {number : Nat} {key : ListKey}
    (waiting : ((new store).after events).call? number = some (.list key)) (response : JobList) :
    ∃ before latest shown later,
      events = before ++ .start latest (.list shown) :: later ∧
      later.filterMap CallEvent.startedList? = [] ∧
      let session := (new store).after events
      let answers :=
        ((new store).after (before ++ [.start latest (.list shown)])).answers shown later
      let turn := session.step (.finishList number (some (.ok response)))
      (key = shown → turn.2.store.list =
        ⟨.loaded, response.totalCount, shown, response.jobs.map Job.name⟩) ∧
      (key ≠ shown → turn.2.store.list = session.store.list ∧
        ∀ other, answers.getLast? = some (some (.ok other)) → turn.2.store.list =
          ⟨.loaded, other.totalCount, shown, other.jobs.map Job.name⟩) ∧
      turn.1 = some (.listed turn.2.store.list.status) ∧
      (turn.1 = some (.listed .loading) ↔ key ≠ shown ∧ answers = []) ∧
      (turn.1 = some (.listed .loaded) ↔
        key = shown ∨ ∃ other, answers.getLast? = some (some (.ok other))) := by
  obtain ⟨before, latest, shown, later, rfl, quiet⟩ :=
    exists_last_list_start (asked_of_waiting waiting)
  refine ⟨before, latest, shown, later, rfl, quiet, ?_⟩
  intro session answers turn
  have current := list_since_start store before latest shown quiet
  change session.store.list = answers.foldl ListState.answered _ at current
  have key_shown : session.store.list.key = shown := by
    rw [current, key_foldl_answered]
  obtain ⟨told, list⟩ := told_of_finishList waiting response
  change turn.1 = some (.listed turn.2.store.list.status) at told
  change turn.2.store.list = session.store.list.after (.fetchJobsSuccess key response) at list
  by_cases own : key = shown
  · have answered : turn.2.store.list =
        ⟨.loaded, response.totalCount, shown, response.jobs.map Job.name⟩ := by
      rw [list, ListState.after, if_pos (key_shown.trans own.symm), key_shown]
    have loaded : turn.1 = some (.listed .loaded) := by rw [told, answered]
    refine ⟨fun _ => answered, fun other => absurd own other, told, ?_, ?_⟩
    · rw [loaded]
      simp [own]
    · exact ⟨fun _ => .inl own, fun _ => loaded⟩
  · have kept : turn.2.store.list = session.store.list := by
      rw [list, ListState.after, if_neg fun same => own (same.symm.trans key_shown)]
    rw [kept, current] at told
    refine ⟨fun same => absurd same own, fun _ => ⟨kept, ?_⟩, ?_, ?_, ?_⟩
    · intro other last
      rw [kept, current, ListState.foldl_answered_of_last answers last]
    · rw [kept, current]
      exact told
    · rw [told]
      simp [own, ListState.loading_foldl_answered_iff]
    · rw [told]
      simp [own, ListState.loaded_foldl_answered_iff]

/-- The second page is asked for while the first one is on its way, and the first one is answered:
its call tells that the list is loading. -/
theorem superseded_call_tells_loading :
    let events : List CallEvent := [.start 0 (.list ⟨1, none⟩), .start 1 (.list ⟨2, none⟩)]
    let session := (new .empty).after events
    let turn := session.step (.finishList 0 (some (.ok ⟨[], 31⟩)))
    session.call? 0 = some (.list ⟨1, none⟩) ∧ turn.1 = some (.listed .loading) ∧
    ∃ before latest shown later,
      events = before ++ .start latest (.list shown) :: later ∧ (⟨1, none⟩ : ListKey) ≠ shown ∧
      ((new .empty).after (before ++ [.start latest (.list shown)])).answers shown later = [] := by
  intro events session turn
  have waiting : session.call? 0 = some (.list ⟨1, none⟩) := by decide
  have told : turn.1 = some (.listed .loading) := by decide
  obtain ⟨before, latest, shown, later, split, -, -, -, -, loading, -⟩ :=
    answered_call_tells_what_is_shown .empty events waiting ⟨[], 31⟩
  obtain ⟨other, unanswered⟩ := loading.1 told
  exact ⟨waiting, told, before, latest, shown, later, split, other, unanswered⟩

/-- The second page is asked for while the first one is on its way, and it is answered first. The
call for the first page then tells that the list is loaded, though the second page is shown. -/
theorem superseded_call_tells_loaded :
    let events : List CallEvent :=
      [.start 0 (.list ⟨1, none⟩), .start 1 (.list ⟨2, none⟩),
        .finishList 1 (some (.ok ⟨[], 32⟩))]
    let turn := ((new .empty).after events).step (.finishList 0 (some (.ok ⟨[], 31⟩)))
    turn.1 = some (.listed .loaded) ∧ turn.2.store.list = ⟨.loaded, 32, ⟨2, none⟩, []⟩ := by
  decide

end Session

end RunBoard.Jobs
