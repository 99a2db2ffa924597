import RunBoard.Load.Mount

/-!
# The turns of a mount

Everything that one turn can do to a mount, and the invariant that all turns keep: the
newest task is the only one that is not cancelled, it loads what the mount shows, and none
is left once the owner has gone.
-/

namespace RunBoard.Load.Mount

variable {κ α : Type}

/-- What a task turns to after this result, and the sleep that others see. -/
def followUp (mount : Mount κ α) (index : Nat) (identity : κ) (previous : Option α)
    (result : Except ClientError α) : Phase α × List (MountEffect κ α) :=
  match mount.refresh.pause identity result.toOption with
  | none => (.ended, [])
  | some period => (.sleeping (result.toOption <|> previous), [.slept index period])

/-- The load state that this result leads to. -/
def outcomeState (mount : Mount κ α) (result : Except ClientError α) : LoadState α :=
  .ofOutcome (result.mapError fun error => error.notice mount.what)

/-- The mount with another load state, in its container and for onlookers. -/
def withContainer (mount : Mount κ α) (container : Container κ α) : Mount κ α :=
  { mount with container := container, published := container.state }

/-- An event, the mount after it and what it let others see. -/
inductive Turn (mount : Mount κ α) :
    MountEvent κ α → Mount κ α → List (MountEffect κ α) → Prop where
  | rest (event : MountEvent κ α) : Turn mount event mount []
  | restart {event : MountEvent κ α} (identity : κ)
      (asked : event = .setIdentity identity ∧ identity ≠ mount.identity ∨
        event = .reload ∧ identity = mount.identity)
      (opened : mount.closed = false) :
      Turn mount event ({ mount with identity := identity }.restart).1
        [.published (mount.container.request identity).state]
  | unmount (opened : mount.closed = false) :
      Turn mount .unmount
        { mount.cancelNewest with container := mount.container.teardown, closed := true } []
  | drop (opened : mount.closed = false) :
      Turn mount .drop { mount.cancelNewest with closed := true } []
  | fetch {index : Nat} {task : LoadTask κ α} {ticket : Ticket} {previous : Option α}
      (found : mount.tasks[index]? = some task) (phase : task.phase = .starting ticket previous) :
      Turn mount (.fetch index) (mount.setPhase index (.fetching ticket previous))
        [.asked index task.identity previous]
  | finish {event : MountEvent κ α} (index : Nat) :
      Turn mount event (mount.setPhase index .ended) []
  | take {index : Nat} {task : LoadTask κ α} {ticket : Ticket} {previous : Option α}
      (result : Except ClientError α)
      (found : mount.tasks[index]? = some task) (phase : task.phase = .fetching ticket previous)
      (live : task.cancelled = false) :
      Turn mount (.settle index (some result))
        ((mount.withContainer
          { mount.container with state := mount.outcomeState result }).setPhase index
            (mount.followUp index task.identity previous result).1)
        (.published (mount.outcomeState result) ::
          (mount.followUp index task.identity previous result).2)
  | wake {index : Nat} {task : LoadTask κ α} {previous : Option α}
      (found : mount.tasks[index]? = some task) (phase : task.phase = .sleeping previous)
      (live : task.cancelled = false) (up : mount.container.tornDown = false) :
      Turn mount (.wake index)
        ((mount.withContainer (mount.container.request task.identity)).setPhase index
          (.starting (mount.container.request task.identity).ticket previous))
        [.published .loading]

/-- A task that nobody has stopped takes the result of the newest request. -/
theorem settle_live (mount : Mount κ α) (index : Nat) (task : LoadTask κ α) {ticket : Ticket}
    {previous : Option α} (live : task.cancelled = false) (up : mount.container.tornDown = false)
    (newest : ticket = mount.container.ticket) (result : Except ClientError α) :
    mount.settle index task ticket previous result =
      ((mount.withContainer { mount.container with state := mount.outcomeState result }).setPhase
          index (mount.followUp index task.identity previous result).1,
        .published (mount.outcomeState result) ::
          (mount.followUp index task.identity previous result).2) := by
  subst newest
  unfold settle followUp
  rw [if_neg (by simp [live]), Container.resolve_newest up]
  dsimp only
  cases mount.refresh.pause task.identity result.toOption <;> rfl

/-- A task that nobody has stopped asks again when its sleep is over. -/
theorem wake_live (mount : Mount κ α) (index : Nat) (task : LoadTask κ α) {previous : Option α}
    (live : task.cancelled = false) (up : mount.container.tornDown = false) :
    mount.wake index task previous =
      ((mount.withContainer (mount.container.request task.identity)).setPhase index
          (.starting (mount.container.request task.identity).ticket previous),
        [.published .loading]) := by
  unfold wake
  rw [if_neg (by simp [live, up]), ← Container.state_request up task.identity]
  rfl

theorem turn_settle {mount : Mount κ α} {index : Nat} {task : LoadTask κ α} {ticket : Ticket}
    {previous : Option α} (result : Except ClientError α)
    (found : mount.tasks[index]? = some task) (phase : task.phase = .fetching ticket previous) :
    Turn mount (.settle index (some result)) (mount.settle index task ticket previous result).1
      (mount.settle index task ticket previous result).2 := by
  cases live : task.cancelled with
  | true =>
      unfold settle
      rw [if_pos live]
      exact .finish index
  | false =>
      cases down : mount.container.tornDown with
      | true =>
          unfold settle
          rw [if_neg (by simp [live]), Container.resolve_of_tornDown down]
          exact .finish index
      | false =>
          by_cases newest : ticket = mount.container.ticket
          · rw [settle_live mount index task live down newest]
            exact .take result found phase live
          · unfold settle
            rw [if_neg (by simp [live]), Container.resolve_of_stale down newest]
            exact .finish index

theorem turn_wake {mount : Mount κ α} {index : Nat} {task : LoadTask κ α} {previous : Option α}
    (found : mount.tasks[index]? = some task) (phase : task.phase = .sleeping previous) :
    Turn mount (.wake index) (mount.wake index task previous).1
      (mount.wake index task previous).2 := by
  cases live : task.cancelled with
  | true =>
      unfold wake
      rw [if_pos (by simp [live])]
      exact .finish index
  | false =>
      cases up : mount.container.tornDown with
      | true =>
          unfold wake
          rw [if_pos (by simp [up])]
          exact .finish index
      | false =>
          rw [wake_live mount index task live up]
          exact .wake found phase live up

/-- Every event is one of these turns. -/
theorem turn_step [DecidableEq κ] (mount : Mount κ α) (event : MountEvent κ α) :
    Turn mount event (mount.step event).1 (mount.step event).2 := by
  cases event with
  | setIdentity identity =>
      simp only [step]
      split
      · exact .rest _
      · next other =>
          simp only [Bool.or_eq_true, decide_eq_true_eq, not_or, Bool.not_eq_true] at other
          exact .restart identity (.inl ⟨rfl, other.2⟩) other.1
  | reload =>
      cases opened : mount.closed with
      | true => simpa [step, opened] using .rest _
      | false => simpa [step, opened] using .restart mount.identity (.inr ⟨rfl, rfl⟩) opened
  | unmount =>
      cases opened : mount.closed with
      | true => simpa [step, opened] using .rest _
      | false => simpa [step, opened] using .unmount opened
  | drop =>
      cases opened : mount.closed with
      | true => simpa [step, opened] using .rest _
      | false => simpa [step, opened] using .drop opened
  | fetch index =>
      simp only [step]
      split
      · next found => exact .fetch found rfl
      · exact .rest _
  | settle index outcome =>
      cases found : mount.tasks[index]? with
      | none => simpa only [step, found] using .rest _
      | some task =>
          cases phase : task.phase with
          | fetching ticket previous =>
              cases outcome with
              | none => simpa only [step, found, phase] using .finish index
              | some result => simpa only [step, found, phase] using turn_settle result found phase
          | starting ticket previous => simpa only [step, found, phase] using .rest _
          | sleeping previous => simpa only [step, found, phase] using .rest _
          | ended => simpa only [step, found, phase] using .rest _
  | wake index =>
      cases found : mount.tasks[index]? with
      | none => simpa only [step, found] using .rest _
      | some task =>
          cases phase : task.phase with
          | sleeping previous => simpa only [step, found, phase] using turn_wake found phase
          | starting ticket previous => simpa only [step, found, phase] using .rest _
          | fetching ticket previous => simpa only [step, found, phase] using .rest _
          | ended => simpa only [step, found, phase] using .rest _
  | notice index =>
      simp only [step]
      split
      · split
        · exact .finish index
        · exact .finish index
        · exact .rest _
      · exact .rest _

/-! ## What a turn leaves of the tasks -/

theorem task_of_setPhase {mount : Mount κ α} {index other : Nat} {phase : Phase α}
    {task : LoadTask κ α} (found : (mount.setPhase index phase).tasks[other]? = some task) :
    ∃ old, mount.tasks[other]? = some old ∧ task.identity = old.identity ∧
      task.cancelled = old.cancelled ∧
      task.phase = if index = other then phase else old.phase := by
  rw [setPhase, List.getElem?_modify, Option.map_eq_map, Option.map_eq_some_iff] at found
  obtain ⟨old, before, changed⟩ := found
  refine ⟨old, before, ?_⟩
  subst changed
  by_cases here : index = other <;> simp [here]

theorem task_of_cancelNewest {mount : Mount κ α} {index : Nat} {task : LoadTask κ α}
    (found : mount.cancelNewest.tasks[index]? = some task) :
    ∃ old, mount.tasks[index]? = some old ∧ task.identity = old.identity ∧
      task.phase = old.phase ∧
      task.cancelled = (old.cancelled || decide (mount.tasks.length - 1 = index)) := by
  rw [cancelNewest, List.getElem?_modify, Option.map_eq_map, Option.map_eq_some_iff] at found
  obtain ⟨old, before, changed⟩ := found
  refine ⟨old, before, ?_⟩
  subst changed
  by_cases newest : mount.tasks.length - 1 = index <;> simp [newest]

theorem getElem?_setPhase_self {mount : Mount κ α} {index : Nat} {task : LoadTask κ α}
    (found : mount.tasks[index]? = some task) (phase : Phase α) :
    (mount.setPhase index phase).tasks[index]? = some { task with phase := phase } := by
  simp [setPhase, found]

theorem getElem?_setPhase_of_ne {mount : Mount κ α} {index other : Nat} (differ : other ≠ index)
    (phase : Phase α) : (mount.setPhase other phase).tasks[index]? = mount.tasks[index]? := by
  simp [setPhase, differ]

@[simp] theorem length_setPhase (mount : Mount κ α) (index : Nat) (phase : Phase α) :
    (mount.setPhase index phase).tasks.length = mount.tasks.length :=
  List.length_modify _ _ _

@[simp] theorem length_cancelNewest (mount : Mount κ α) :
    mount.cancelNewest.tasks.length = mount.tasks.length :=
  List.length_modify _ _ _

theorem step_setIdentity [DecidableEq κ] {mount : Mount κ α} (opened : mount.closed = false)
    {identity : κ} (other : identity ≠ mount.identity) :
    mount.step (.setIdentity identity) = { mount with identity := identity }.restart :=
  if_neg (by simp [opened, other])

theorem step_reload [DecidableEq κ] {mount : Mount κ α} (opened : mount.closed = false) :
    mount.step .reload = mount.restart :=
  if_neg (ne_true_of_eq_false opened)

theorem tasks_restart (mount : Mount κ α) :
    mount.restart.1.tasks = mount.cancelNewest.tasks ++
      [⟨mount.identity, false, .starting (mount.container.request mount.identity).ticket none⟩] :=
  rfl

/-- A task after a restart is the new one, or was there before and is cancelled if it was
the newest. -/
theorem task_of_restart {mount : Mount κ α} {index : Nat} {task : LoadTask κ α}
    (found : mount.restart.1.tasks[index]? = some task) :
    (index = mount.tasks.length ∧ task.identity = mount.identity ∧ task.cancelled = false ∧
      task.phase = .starting (mount.container.request mount.identity).ticket none) ∨
    ∃ old, mount.tasks[index]? = some old ∧ task.identity = old.identity ∧
      task.phase = old.phase ∧
      task.cancelled = (old.cancelled || decide (mount.tasks.length - 1 = index)) := by
  rw [tasks_restart, List.getElem?_append] at found
  split at found
  · exact .inr (task_of_cancelNewest found)
  · next beyond =>
      left
      rw [length_cancelNewest] at beyond found
      rw [List.getElem?_singleton] at found
      split at found
      · next first =>
          cases found
          exact ⟨by omega, rfl, rfl, rfl⟩
      · cases found

/-! ## The invariant -/

/-- Onlookers see the state of the container; a task that is not cancelled is the newest one
and loads what the mount shows, under an owner that is still there; only a mount whose owner
has gone is torn down. -/
structure Sound (mount : Mount κ α) : Prop where
  shown : mount.published = mount.container.state
  live {index : Nat} {task : LoadTask κ α} (found : mount.tasks[index]? = some task)
    (running : task.cancelled = false) :
    index + 1 = mount.tasks.length ∧ task.identity = mount.identity ∧ mount.closed = false
  down : mount.container.tornDown = true → mount.closed = true

namespace Sound

theorem up {mount : Mount κ α} (sound : Sound mount) (opened : mount.closed = false) :
    mount.container.tornDown = false := by
  cases down : mount.container.tornDown with
  | false => rfl
  | true => rw [sound.down down] at opened; cases opened

theorem setPhase {mount : Mount κ α} (sound : Sound mount) (index : Nat) (phase : Phase α) :
    Sound (mount.setPhase index phase) where
  shown := sound.shown
  live found running := by
    obtain ⟨old, before, identity, cancelled, _⟩ := task_of_setPhase found
    rw [length_setPhase, identity]
    exact sound.live before (cancelled.symm.trans running)
  down := sound.down

theorem withContainer {mount : Mount κ α} (sound : Sound mount) {container : Container κ α}
    (down : container.tornDown = mount.container.tornDown) :
    Sound (mount.withContainer container) where
  shown := rfl
  live := sound.live
  down torn := sound.down (down.symm.trans torn)

/-- The owner's departure cancels the task that was still running. -/
theorem close {mount : Mount κ α} (sound : Sound mount) {container : Container κ α}
    (same : container.state = mount.container.state) :
    Sound { mount.cancelNewest with container := container, closed := true } where
  shown := sound.shown.trans same.symm
  live found running := by
    obtain ⟨old, before, _, _, cancelled⟩ := task_of_cancelNewest found
    rw [running, eq_comm, Bool.or_eq_false_iff, decide_eq_false_iff_not] at cancelled
    exact absurd (by have := (sound.live before cancelled.1).1; omega) cancelled.2
  down _ := rfl

theorem restart {mount : Mount κ α} (sound : Sound mount) (opened : mount.closed = false)
    (identity : κ) : Sound ({ mount with identity := identity }.restart).1 where
  shown := rfl
  live {index task} found running := by
    rcases task_of_restart found with ⟨newest, same, _, _⟩ | ⟨old, before, _, _, cancelled⟩
    · refine ⟨?_, same, opened⟩
      rw [tasks_restart, List.length_append, length_cancelNewest, newest]
      rfl
    · rw [running, eq_comm, Bool.or_eq_false_iff, decide_eq_false_iff_not] at cancelled
      have last : index + 1 = mount.tasks.length := (sound.live before cancelled.1).1
      exact absurd (by simp only; omega) cancelled.2
  down torn := sound.down torn

end Sound

/-- Every turn keeps the invariant. -/
theorem Turn.sound {mount next : Mount κ α} {event : MountEvent κ α}
    {effects : List (MountEffect κ α)} (turn : Turn mount event next effects)
    (sound : Sound mount) : Sound next := by
  cases turn with
  | rest => exact sound
  | restart identity asked opened => exact sound.restart opened identity
  | unmount opened => exact sound.close rfl
  | drop opened => exact sound.close rfl
  | fetch found phase => exact sound.setPhase _ _
  | finish index => exact sound.setPhase _ _
  | take result found phase live =>
      apply Sound.setPhase
      exact sound.withContainer rfl
  | wake found phase live up =>
      apply Sound.setPhase
      exact sound.withContainer rfl

theorem sound_start (identity : κ) (what : String) (refresh : Refresh κ α) :
    Sound (start identity what refresh).1 where
  shown := rfl
  live found running := by
    rcases task_of_restart found with ⟨newest, same, _, _⟩ | ⟨old, before, _⟩
    · exact ⟨by rw [newest]; rfl, same, rfl⟩
    · cases before
  down torn := by cases torn

/-! ## Runs -/

section Runs

variable [DecidableEq κ]

theorem run_append (mount : Mount κ α) (first second : List (MountEvent κ α)) :
    mount.run (first ++ second) =
      (((mount.run first).1.run second).1,
        (mount.run first).2 ++ ((mount.run first).1.run second).2) := by
  induction first generalizing mount with
  | nil => rfl
  | cons event rest ih => simp [run, ih]

theorem run_concat (mount : Mount κ α) (events : List (MountEvent κ α))
    (event : MountEvent κ α) :
    mount.run (events ++ [event]) =
      (((mount.run events).1.step event).1,
        (mount.run events).2 ++ ((mount.run events).1.step event).2) := by
  rw [run_append]
  simp [run]

theorem sound_run {mount : Mount κ α} (sound : Sound mount) (events : List (MountEvent κ α)) :
    Sound (mount.run events).1 := by
  induction events generalizing mount with
  | nil => exact sound
  | cons event rest ih => exact ih ((turn_step mount event).sound sound)

end Runs

end RunBoard.Load.Mount
