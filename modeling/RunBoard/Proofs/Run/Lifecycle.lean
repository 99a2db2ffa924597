import RunBoard.Proofs.Time.Clock

/-!
# What a consistent run is shown as

The display of a run goes by its two times, the lifecycle check by its status. A state that
the check has nothing against is shown as what its status says, but for one case: the check asks
a run that has left its first status for a start time, and does not forbid one before. A run that
is scheduled and has a start time passes, and is shown as running.
-/

namespace RunBoard

/-- What a run in this status should be shown as. -/
def RunStatus.label : RunStatus → StatusLabel
  | scheduled => .scheduled
  | running => .running
  | success => .successful
  | failed | killed | lost => .failed

namespace RunState

variable {state : RunState}

/-! ## The check -/

theorem faults_eq_nil_iff :
    state.faults = [] ↔
      state.isCompleted = state.status.isTerminal ∧
        (state.status ≠ .scheduled → state.isStarted = true) := by
  simp [faults, eq_comm (a := state.isCompleted)]

theorem problems_eq_nil_iff {run : String} : state.problems run = [] ↔ state.faults = [] :=
  List.map_eq_nil_iff

/-! ## The display -/

section Display

variable (state) (now : Timestamp)

/-- The label goes by the times; the status only tells what a completed run has come to. -/
theorem label_display : (state.display now).label =
    if state.isCompleted then if state.isSuccessful then .successful else .failed
    else if state.isStarted then .running else .scheduled := by
  unfold display
  split
  · split <;> rfl
  · split <;> rfl

/-- What is shown as scheduled has no start time, so no time is left out. -/
theorem isSome_duration_display :
    (state.display now).duration.isSome = state.isStarted := by
  rw [state.display_shows now now, elapsed, Option.isSome_map]
  rfl

/-- Where the check finds nothing, only a start time that is there too early makes the label
another one than that of the status. -/
theorem label_of_consistent (consistent : state.faults = []) : (state.display now).label =
    if state.status = .scheduled ∧ state.isStarted then .running else state.status.label := by
  obtain ⟨completed, started⟩ := faults_eq_nil_iff.1 consistent
  rw [label_display, completed, isSuccessful]
  cases status : state.status with
  | scheduled => simp [RunStatus.isTerminal, RunStatus.label]
  | running => simp [RunStatus.isTerminal, RunStatus.label, started, status]
  | success | failed | killed | lost => simp [RunStatus.isTerminal, RunStatus.label]

end Display

/-- A run of which no problem is reported is shown as successful or failed by its status, as
running when its status says so or it is scheduled with a start time, and otherwise as scheduled.
It has a duration when it has left its first status or has a start time in it. -/
theorem display_agrees_but_for_early_start {run : String} (consistent : state.problems run = [])
    (now : Timestamp) :
    ((state.display now).label = .successful ↔ state.status = .success) ∧
    ((state.display now).label = .failed ↔
      state.status = .failed ∨ state.status = .killed ∨ state.status = .lost) ∧
    ((state.display now).label = .running ↔
      state.status = .running ∨ state.status = .scheduled ∧ state.isStarted = true) ∧
    ((state.display now).label = .scheduled ↔
      state.status = .scheduled ∧ state.isStarted = false) ∧
    ((state.display now).duration.isSome = true ↔
      state.status ≠ .scheduled ∨ state.isStarted = true) := by
  have faultless := problems_eq_nil_iff.1 consistent
  have started := (faults_eq_nil_iff.1 faultless).2
  rw [label_of_consistent state now faultless, isSome_duration_display]
  cases status : state.status with
  | scheduled => cases state.isStarted <;> simp [RunStatus.label]
  | running | success | failed | killed | lost => simp [RunStatus.label, started, status]

/-- A run that was killed is shown as failed, with the time that it took. -/
theorem killed_run_is_shown_as_failed :
    let state : RunState := ⟨.killed, some .epoch, some .epoch, 0, []⟩
    state.problems "r1" = [] ∧ (state.display .epoch).label = .failed ∧
      (state.display .epoch).duration.isSome = true := by
  intro state
  have consistent : state.problems "r1" = [] := by decide
  obtain ⟨-, failed, -, -, timed⟩ := display_agrees_but_for_early_start consistent .epoch
  exact ⟨consistent, failed.2 (.inr (.inl rfl)), timed.2 (.inl (by decide))⟩

/-- A scheduled run with a start time has no problem, and is shown as running for some time. -/
theorem early_start_is_shown_as_running :
    let state : RunState := ⟨.scheduled, some .epoch, none, 0, []⟩
    state.problems "r1" = [] ∧
      ¬ ((state.display .epoch).label = .running ↔ state.status = .running) ∧
      ¬ ((state.display .epoch).label = .scheduled ↔ state.status = .scheduled) ∧
      ¬ ((state.display .epoch).duration.isSome = true ↔ state.status ≠ .scheduled) := by
  decide

end RunState

end RunBoard
