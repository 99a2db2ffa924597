import Mathlib.Data.List.Infix
import RunBoard.Proofs.Client.Bearer
import RunBoard.Proofs.Load.Asked
import RunBoard.Proofs.Run.Lifecycle
import RunBoard.Proofs.Run.Progress
import RunBoard.View.Standard

/-!
# How long a run is watched

A watch asks for its run, and asks again after every failure and after every answer by which the
run has not completed. With the first answer by which it has, the watch ends. Whether a run has
completed is said by its completion time; its status says the same unless the two contradict each
other, and then the completion time decides.
-/

namespace RunBoard

namespace Run

/-- A run of which no problem is reported has completed exactly when its status is terminal. -/
theorem isCompleted_of_consistent {run : Run} (consistent : run.problems none = []) :
    run.state.isCompleted = run.state.status.isTerminal := by
  rw [problems, List.append_nil] at consistent
  exact (RunState.faults_eq_nil_iff.1 (RunState.problems_eq_nil_iff.1 consistent)).1

end Run

namespace View

open Load Load.Mount

section Turns

variable {m : Type → Type} [Monad m] (client : Client m) (period : Nat) (id : String)

/-- What a watch stops after: an answer by which the run has completed. -/
theorem stopsAfter_runWatch {outcome : Except ClientError Run} :
    (runWatch client period).refresh.stopsAfter id outcome = true ↔
      ∃ run, outcome = .ok run ∧ run.state.isCompleted = true := by
  cases outcome with
  | ok run =>
    constructor
    · exact fun completed => ⟨run, rfl, completed⟩
    · rintro ⟨run, ⟨⟩, completed⟩
      exact completed
  | error error =>
    constructor
    · intro impossible
      cases impossible
    · rintro ⟨run, ⟨⟩, -⟩

theorem polled_runWatch : ∃ ticket,
    Polled "run" (runWatch client period).refresh 0 id ((runWatch client period).mount id) []
      [.loading] [] (.starting ticket none) :=
  (Begins.start id).polled.2

variable {events : List (MountEvent String Run)}
  (areTasks : ∀ event ∈ events, event.task?.isSome = true) (answered : .settle 0 none ∉ events)

include areTasks answered

/-- A watch has made one request for each outcome, and one more while it waits for an answer. -/
theorem asked_runWatch :
    let first := (runWatch client period).mount id
    ∃ phase shown told, Polled "run" (runWatch client period).refresh 0 id (first.run events).1
        (first.taken 0 events) shown told phase ∧
      asked (first.run events).2 =
        List.replicate ((first.taken 0 events).length + if phase.isFetching then 1 else 0) id := by
  intro first
  obtain ⟨ticket, polled⟩ := polled_runWatch client period id
  obtain ⟨phase, reached⟩ := polled.run events areTasks answered
  refine ⟨phase, _, _, reached, ?_⟩
  have told := congrArg List.length reached.tells
  simp only [List.nil_append, List.length_map, List.length_range] at told
  rw [asked_eq_replicate (polled.drives.only_run events areTasks answered), told]

/-- Once the run has completed, no turn makes another request. -/
theorem asked_of_completed {run : Run}
    (came : .ok run ∈ ((runWatch client period).mount id).taken 0 events)
    (completed : run.state.isCompleted = true) {later : List (MountEvent String Run)}
    (areTasksLater : ∀ event ∈ later, event.task?.isSome = true)
    (answeredLater : .settle 0 none ∉ later) :
    asked (((runWatch client period).mount id).run (events ++ later)).2 =
      List.replicate (((runWatch client period).mount id).taken 0 events).length id := by
  obtain ⟨phase, shown, told, polled, sent⟩ :=
    asked_runWatch client period id areTasks answered
  have stops := (stopsAfter_runWatch client period id).2 ⟨run, rfl, completed⟩
  obtain rfl : phase = .ended := by
    by_contra running
    have goesOn := polled.goesOn_of_running running _ came
    rw [stops] at goesOn
    cases goesOn
  have silent := asked_eq_replicate (polled.drives.only_run later areTasksLater answeredLater)
  rw [polled.drives.told_of_ended later areTasksLater answeredLater] at silent
  calc asked (((runWatch client period).mount id).run (events ++ later)).2
      = asked (((runWatch client period).mount id).run events).2 ++
          asked ((((runWatch client period).mount id).run events).1.run later).2 := by
        rw [run_append]
        exact List.filterMap_append
    _ = List.replicate (((runWatch client period).mount id).taken 0 events).length id := by
        rw [sent, silent]
        simp [Phase.isFetching]

/-- Until the run has completed, another request follows when the sleep is over. -/
theorem asked_of_going
    (going : ∀ run, .ok run ∈ ((runWatch client period).mount id).taken 0 events →
      run.state.isCompleted = false) :
    asked (((runWatch client period).mount id).run (events ++ wakened 0)).2 =
      List.replicate ((((runWatch client period).mount id).taken 0 events).length + 1) id := by
  obtain ⟨phase, shown, told, polled, -⟩ :=
    asked_runWatch client period id areTasks answered
  have running : phase ≠ .ended := by
    intro ended
    obtain ⟨outcome, last, stops⟩ := polled.ends.1 ended
    obtain ⟨run, rfl, completed⟩ := (stopsAfter_runWatch client period id).1 stops
    rw [going run (List.mem_of_getLast? last)] at completed
    cases completed
  obtain ⟨ticket, previous, asking⟩ := polled.drives.fetching_wakened running
  have onward : ∀ event ∈ events ++ wakened 0, event.task?.isSome = true := by
    intro event inside
    rcases List.mem_append.1 inside with before | now
    · exact areTasks event before
    · exact areTasks_wakened 0 event now
  have answeredOnward : .settle 0 none ∉ events ++ wakened 0 := by
    rw [List.mem_append, not_or]
    exact ⟨answered, answered_wakened 0⟩
  obtain ⟨last, _, _, reached, sent⟩ :=
    asked_runWatch client period id onward answeredOnward
  -- The task that waits is the one that the count speaks of.
  obtain rfl : last = .fetching ticket previous := by
    have found := reached.drives.found
    rw [run_append] at found
    have same := Option.some.inj (found.symm.trans asking.found)
    exact (LoadTask.mk.inj same).2.2
  rw [sent, taken_append]
  simp [wakened, taken, taken?, Phase.isFetching]

end Turns

/-- A watch, in any turns of its task in which no request is cancelled. When it has got an answer
by which the run has completed, there have been as many requests as outcomes, and there are no
more, whatever turns come later. Until then, when the sleep is over there is one more request
than there have been outcomes. Any outcomes can come, up to the first by which the run has
completed. A run that contradicts itself in nothing has completed when its status is terminal. -/
theorem watch_asks_until_run_has_completed {m : Type → Type} [Monad m] (client : Client m)
    (period : Nat) (id : String) :
    let first := (runWatch client period).mount id
    (∀ events later, (∀ event ∈ events ++ later, event.task?.isSome = true) →
      .settle 0 none ∉ events ++ later →
      let outcomes := first.taken 0 events
      (∀ run, .ok run ∈ outcomes → run.state.isCompleted = true →
        asked (first.run (events ++ later)).2 = List.replicate outcomes.length id) ∧
      ((∀ run, .ok run ∈ outcomes → run.state.isCompleted = false) →
        asked (first.run (events ++ wakened 0)).2 =
          List.replicate (outcomes.length + 1) id)) ∧
    (∀ outcomes, (∀ run, .ok run ∈ outcomes.dropLast → run.state.isCompleted = false) →
      first.taken 0 (rounds 0 outcomes) = outcomes) ∧
    ∀ run : Run, run.problems none = [] → run.state.isCompleted = run.state.status.isTerminal := by
  intro first
  refine ⟨?_, ?_, fun run => Run.isCompleted_of_consistent⟩
  · intro events later areTasks answered outcomes
    rw [List.mem_append, not_or] at answered
    have soFar : ∀ event ∈ events, event.task?.isSome = true := fun event inside =>
      areTasks event (List.mem_append_left _ inside)
    constructor
    · intro run came completed
      exact asked_of_completed client period id soFar answered.1 came completed
        (fun event inside => areTasks event (List.mem_append_right _ inside)) answered.2
    · intro going
      exact asked_of_going client period id soFar answered.1 going
  · intro outcomes goesOn
    obtain ⟨ticket, polled⟩ := polled_runWatch client period id
    apply taken_rounds polled.drives
    intro outcome member
    by_contra stops
    obtain ⟨run, rfl, completed⟩ :=
      (stopsAfter_runWatch client period id).1 (eq_true_of_ne_false stops)
    rw [goesOn run member] at completed
    cases completed

/-- A run without nodes that has this status, and that has completed at this time. -/
def watched (status : RunStatus) (completedAt : Option Timestamp) : Run :=
  { Run.pollOf [] with state := ⟨status, some .epoch, completedAt, 0, []⟩ }

/-- A gateway that is out of reach. The outcomes of a watch come in the events of its mount. -/
def offline : Client (StateM Command.Scene) :=
  .sample fun _ _ => .lost "connection refused"

/-- The first poll fails, and by the second one the run is still going on. -/
def early : List (Except ClientError Run) :=
  [.error (.http 503 "busy"), .ok (watched .running none)]

/-- After these two polls there is a third one. By that one the run has completed, and there is no
fourth request when the task is woken again. -/
theorem watch_ends_with_third_poll :
    let first := (runWatch offline 10).mount "r1"
    let done := watched .success (some .epoch)
    first.taken 0 (rounds 0 early) = early ∧
      asked (first.run (rounds 0 early ++ wakened 0)).2 = ["r1", "r1", "r1"] ∧
      first.taken 0 (rounds 0 (early ++ [Except.ok done])) = early ++ [Except.ok done] ∧
      asked (first.run (rounds 0 (early ++ [Except.ok done]) ++ wakened 0)).2 =
        ["r1", "r1", "r1"] ∧
      done.problems none = [] ∧ done.state.isCompleted = done.state.status.isTerminal := by
  intro first done
  obtain ⟨turns, all, consistent⟩ := watch_asks_until_run_has_completed offline 10 "r1"
  have goesOn : ∀ run, .ok run ∈ early → run.state.isCompleted = false := by
    intro run member
    have known : run = watched .running none := by simpa [early] using member
    exact known ▸ rfl
  have before : first.taken 0 (rounds 0 early) = early :=
    all early fun run member => goesOn run (List.mem_of_mem_dropLast member)
  have after : first.taken 0 (rounds 0 (early ++ [Except.ok done])) = early ++ [Except.ok done] :=
    all _ fun run member => goesOn run (by simpa using member)
  have going := (turns (rounds 0 early) (wakened 0)
    (by simp [early, rounds, wakened, MountEvent.task?]) (by simp [early, rounds, wakened])).2
  have ended := (turns (rounds 0 (early ++ [Except.ok done])) (wakened 0)
    (by simp [early, rounds, wakened, MountEvent.task?]) (by simp [early, rounds, wakened])).1
  rw [before] at going
  rw [after] at ended
  have sound : done.problems none = [] := rfl
  exact ⟨before, going goesOn, after, ended done (by simp) rfl, sound, consistent done sound⟩

/-- Where a run contradicts itself, the watch goes by the completion time. A run that has succeeded
without having completed is asked for again, and one that is running and has completed is not. -/
theorem watch_goes_by_completion_time :
    let first := (runWatch offline 10).mount "r1"
    let succeeded := watched .success none
    let running := watched .running (some .epoch)
    succeeded.state.status.isTerminal = true ∧
      asked (first.run (rounds 0 [Except.ok succeeded] ++ wakened 0)).2 = ["r1", "r1"] ∧
      running.state.status.isTerminal = false ∧
      asked (first.run (rounds 0 [Except.ok running] ++ wakened 0)).2 = ["r1"] :=
  ⟨rfl, rfl, rfl, rfl⟩

end View

end RunBoard
