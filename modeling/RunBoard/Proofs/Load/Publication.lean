import Mathlib.Data.List.Induction
import RunBoard.Proofs.Load.Turn

/-!
# What a mount publishes

In every run of owner and tasks, what onlookers see settled is the answer to a request of
the newest task for the identity that the mount shows. Answers to older tasks are dropped,
and nothing is published once the owner has taken the mount down.
-/

namespace RunBoard.Load

variable {κ α : Type}

def MountEffect.shown? : MountEffect κ α → Option (LoadState α)
  | .published state => some state
  | _ => none

namespace Mount

/-- The state that was published last. -/
def lastShown? (effects : List (MountEffect κ α)) : Option (LoadState α) :=
  (effects.filterMap MountEffect.shown?).getLast?

theorem lastShown?_append (first second : List (MountEffect κ α)) :
    lastShown? (first ++ second) = (lastShown? second).or (lastShown? first) := by
  simp [lastShown?, List.getLast?_append]

theorem lastShown?_of_quiet {effects : List (MountEffect κ α)}
    (quiet : ∀ state, .published state ∉ effects) : lastShown? effects = none := by
  rw [lastShown?, List.getLast?_eq_none_iff, List.filterMap_eq_nil_iff]
  intro effect member
  cases effect with
  | published state => exact absurd member (quiet state)
  | asked task identity previous => rfl
  | slept task period => rfl

/-- A task that waits for an answer after another task, or itself, turned to something else
was waiting for it before. -/
theorem waiting_of_setPhase {mount : Mount κ α} {index other : Nat} {phase : Phase α}
    {task : LoadTask κ α} {ticket : Ticket} {previous : Option α}
    (found : (mount.setPhase index phase).tasks[other]? = some task)
    (turned : phase ≠ .fetching ticket previous) (waiting : task.phase = .fetching ticket previous) :
    ∃ old, mount.tasks[other]? = some old ∧ task.identity = old.identity ∧
      old.phase = .fetching ticket previous := by
  obtain ⟨old, before, same, _, changed⟩ := task_of_setPhase found
  rw [waiting] at changed
  split at changed
  · exact absurd changed.symm turned
  · exact ⟨old, before, same, changed.symm⟩

theorem followUp_phase (mount : Mount κ α) (index : Nat) (identity : κ) (previous : Option α)
    (result : Except ClientError α) (ticket : Ticket) (given : Option α) :
    (mount.followUp index identity previous result).1 ≠ .fetching ticket given := by
  unfold followUp
  split <;> simp

theorem followUp_effects {mount : Mount κ α} {index : Nat} {identity : κ} {previous : Option α}
    {result : Except ClientError α} {effect : MountEffect κ α}
    (member : effect ∈ (mount.followUp index identity previous result).2) :
    ∃ period, effect = .slept index period := by
  unfold followUp at member
  split at member
  · cases member
  · next period _ => exact ⟨period, List.mem_singleton.mp member⟩

theorem lastShown?_followUp (mount : Mount κ α) (index : Nat) (identity : κ)
    (previous : Option α) (result : Except ClientError α) (state : LoadState α) :
    lastShown? (.published state :: (mount.followUp index identity previous result).2) =
      some state := by
  unfold followUp
  split <;> rfl

namespace Turn

variable {mount next : Mount κ α} {event : MountEvent κ α} {effects : List (MountEffect κ α)}

theorem what (turn : Turn mount event next effects) : next.what = mount.what := by
  cases turn <;> rfl

/-- Onlookers see what was published last. -/
theorem published (turn : Turn mount event next effects) :
    next.published = (lastShown? effects).getD mount.published := by
  cases turn with
  | rest | unmount | drop | finish => rfl
  | fetch found phase => rfl
  | restart identity asked opened => rfl
  | take result found phase live => rw [lastShown?_followUp]; rfl
  | @wake index task previous found phase live up =>
      exact Container.state_request up task.identity

/-- A settled state is published only by a task that is not cancelled, when it gets an
answer; the answer is what is published. -/
theorem of_settled (turn : Turn mount event next effects) (sound : Sound mount)
    {state : LoadState α} (shown : .published state ∈ effects) (settled : state.isSettled = true) :
    ∃ index task ticket previous result, event = .settle index (some result) ∧
      mount.tasks[index]? = some task ∧ task.phase = .fetching ticket previous ∧
      task.cancelled = false ∧ state = mount.outcomeState result := by
  cases turn with
  | rest | unmount | drop | finish => cases shown
  | fetch found phase => simp at shown
  | restart identity asked opened =>
      simp only [List.mem_singleton, MountEffect.published.injEq] at shown
      rw [shown, Container.state_request (sound.up opened)] at settled
      cases settled
  | @take index task ticket previous result found phase live =>
      refine ⟨index, task, ticket, previous, result, rfl, found, phase, live, ?_⟩
      rcases List.mem_cons.mp shown with same | inside
      · exact MountEffect.published.inj same
      · obtain ⟨period, slept⟩ := followUp_effects inside
        cases slept
  | wake found phase live up =>
      simp only [List.mem_singleton, MountEffect.published.injEq] at shown
      rw [shown] at settled
      cases settled

/-- Once the owner has gone, nothing is published. -/
theorem of_closed (turn : Turn mount event next effects) (sound : Sound mount)
    (closed : mount.closed = true) :
    next.closed = true ∧ ∀ state, .published state ∉ effects := by
  cases turn with
  | rest | finish => exact ⟨closed, fun _ => List.not_mem_nil⟩
  | fetch found phase => exact ⟨closed, by simp⟩
  | restart identity asked opened => rw [opened] at closed; cases closed
  | unmount opened => rw [opened] at closed; cases closed
  | drop opened => rw [opened] at closed; cases closed
  | take result found phase live => rw [(sound.live found live).2.2] at closed; cases closed
  | wake found phase live up => rw [(sound.live found live).2.2] at closed; cases closed

/-- A task that waits for an answer asked in this turn, or waited for it before. -/
theorem of_fetching (turn : Turn mount event next effects) {index : Nat} {task : LoadTask κ α}
    {ticket : Ticket} {previous : Option α} (found : next.tasks[index]? = some task)
    (waiting : task.phase = .fetching ticket previous) :
    (event = .fetch index ∧ effects = [.asked index task.identity previous]) ∨
    ∃ old, mount.tasks[index]? = some old ∧ task.identity = old.identity ∧
      old.phase = .fetching ticket previous ∧
      ∀ identity given, .asked index identity given ∉ effects := by
  cases turn with
  | rest => exact .inr ⟨task, found, rfl, waiting, by simp⟩
  | restart identity asked opened =>
      rcases task_of_restart found with ⟨_, _, _, fresh⟩ | ⟨old, before, same, phase, _⟩
      · rw [fresh] at waiting; cases waiting
      · exact .inr ⟨old, before, same, phase ▸ waiting, by simp⟩
  | unmount opened =>
      obtain ⟨old, before, same, phase, _⟩ := task_of_cancelNewest found
      exact .inr ⟨old, before, same, phase ▸ waiting, by simp⟩
  | drop opened =>
      obtain ⟨old, before, same, phase, _⟩ := task_of_cancelNewest found
      exact .inr ⟨old, before, same, phase ▸ waiting, by simp⟩
  | @fetch asker first _ given began phase =>
      obtain ⟨old, before, same, _, changed⟩ := task_of_setPhase found
      by_cases here : asker = index
      · subst here
        rw [if_pos rfl, waiting] at changed
        cases changed
        rw [before] at began
        cases began
        exact .inl ⟨rfl, by rw [same]⟩
      · rw [if_neg here] at changed
        exact .inr ⟨old, before, same, changed ▸ waiting, by simp [Ne.symm here]⟩
  | finish other =>
      obtain ⟨old, before, same, phase⟩ := waiting_of_setPhase found nofun waiting
      exact .inr ⟨old, before, same, phase, by simp⟩
  | take result began fetching live =>
      obtain ⟨old, before, same, phase⟩ :=
        waiting_of_setPhase found (followUp_phase _ _ _ _ _ _ _) waiting
      refine .inr ⟨old, before, same, phase, fun identity given member => ?_⟩
      rcases List.mem_cons.mp member with impossible | inside
      · cases impossible
      · obtain ⟨period, slept⟩ := followUp_effects inside
        cases slept
  | wake began sleeping live up =>
      obtain ⟨old, before, same, phase⟩ := waiting_of_setPhase found nofun waiting
      exact .inr ⟨old, before, same, phase, by simp⟩

end Turn

/-- No task waits for an answer. -/
def Unasked (mount : Mount κ α) : Prop :=
  ∀ (index : Nat) (task : LoadTask κ α) (ticket : Ticket) (previous : Option α),
    mount.tasks[index]? = some task → task.phase ≠ .fetching ticket previous

theorem unasked_start (identity : κ) (what : String) (refresh : Refresh κ α) :
    Unasked (start identity what refresh).1 := by
  intro index task ticket previous found
  rcases task_of_restart found with ⟨_, _, _, phase⟩ | ⟨old, before, _⟩
  · rw [phase]
    nofun
  · cases before

/-! ## Runs -/

variable [DecidableEq κ]

theorem what_run (mount : Mount κ α) (events : List (MountEvent κ α)) :
    (mount.run events).1.what = mount.what := by
  induction events generalizing mount with
  | nil => rfl
  | cons event rest ih => exact (ih _).trans (turn_step mount event).what

theorem published_run (mount : Mount κ α) (events : List (MountEvent κ α)) :
    (mount.run events).1.published = (lastShown? (mount.run events).2).getD mount.published := by
  induction events generalizing mount with
  | nil => rfl
  | cons event rest ih =>
      simp only [run]
      rw [ih, (turn_step mount event).published, lastShown?_append]
      cases lastShown? ((mount.step event).1.run rest).2 <;> rfl

theorem run_of_closed {mount : Mount κ α} (sound : Sound mount) (closed : mount.closed = true)
    (events : List (MountEvent κ α)) :
    ∀ state, .published state ∉ (mount.run events).2 := by
  induction events generalizing mount with
  | nil => exact fun _ => List.not_mem_nil
  | cons event rest ih =>
      have turn := turn_step mount event
      obtain ⟨still, quiet⟩ := turn.of_closed sound closed
      intro state member
      rcases List.mem_append.mp member with first | later
      · exact quiet state first
      · exact ih (turn.sound sound) still state later

/-- Task `index` has asked for this identity in the run of these events, and has not asked
again since. -/
def Awaits (first : Mount κ α) (events : List (MountEvent κ α)) (index : Nat) (identity : κ) :
    Prop :=
  ∃ earlier later previous, events = earlier ++ .fetch index :: later ∧
    ((first.run earlier).1.step (.fetch index)).2 = [.asked index identity previous] ∧
    ∀ other given, .asked index other given ∉
      (((first.run earlier).1.step (.fetch index)).1.run later).2

theorem Awaits.concat {first : Mount κ α} {events : List (MountEvent κ α)} {index : Nat}
    {identity : κ} (awaits : Awaits first events index identity) {event : MountEvent κ α}
    (silent : ∀ other given, .asked index other given ∉ ((first.run events).1.step event).2) :
    Awaits first (events ++ [event]) index identity := by
  obtain ⟨earlier, later, previous, split, asked, quiet⟩ := awaits
  refine ⟨earlier, later ++ [event], previous, by simp [split], asked, ?_⟩
  have reached : (((first.run earlier).1.step (.fetch index)).1.run later).1 =
      (first.run events).1 := by
    rw [split, run_append]
    rfl
  intro other given member
  rw [run_concat, reached] at member
  rcases List.mem_append.mp member with before | now
  · exact quiet other given before
  · exact silent other given now

/-- The answer that a task waits for is the answer to what it asked last. -/
theorem awaits_of_fetching {first : Mount κ α} (unasked : Unasked first)
    {events : List (MountEvent κ α)} {index : Nat} {task : LoadTask κ α} {ticket : Ticket}
    {previous : Option α} (found : (first.run events).1.tasks[index]? = some task)
    (waiting : task.phase = .fetching ticket previous) :
    Awaits first events index task.identity := by
  induction events using List.reverseRecOn generalizing task with
  | nil => exact absurd waiting (unasked _ _ _ _ found)
  | append_singleton events event ih =>
      rw [run_concat] at found
      rcases (turn_step _ event).of_fetching found waiting with
        ⟨now, asked⟩ | ⟨old, before, same, phase, silent⟩
      · subst now
        exact ⟨events, [], _, rfl, asked, fun _ _ => List.not_mem_nil⟩
      · rw [same]
        exact (ih before phase).concat silent

/--
In every run of owner and tasks: a settled state is published only when the newest task gets
the answer to what it asked last, which was for the identity that the mount shows; onlookers
see the state of the container, which is the one published last; and after the owner has
unmounted nothing is published, whatever the tasks still do.
-/
theorem publication_follows_newest_task (identity : κ) (what : String) (refresh : Refresh κ α)
    (events : List (MountEvent κ α)) :
    let first := start identity what refresh
    let mount := (first.1.run events).1
    (∀ event state, .published state ∈ (mount.step event).2 → state.isSettled = true →
      ∃ index result, event = .settle index (some result) ∧
        state = .ofOutcome (result.mapError fun error => error.notice what) ∧
        index + 1 = mount.tasks.length ∧ Awaits first.1 events index mount.identity) ∧
    (mount.published = mount.container.state ∧
      lastShown? (first.2 ++ (first.1.run events).2) = some mount.published) ∧
    (∀ later, ((mount.step .unmount).1.run later).1.published = mount.published ∧
      ∀ state, .published state ∉ ((mount.step .unmount).1.run later).2) := by
  intro first mount
  have sound : Sound mount := sound_run (sound_start identity what refresh) events
  refine ⟨?_, ⟨sound.shown, ?_⟩, ?_⟩
  · intro event state shown settled
    obtain ⟨index, task, ticket, previous, result, answered, found, waiting, live, same⟩ :=
      (turn_step mount event).of_settled sound shown settled
    obtain ⟨newest, current, _⟩ := sound.live found live
    have named : mount.what = what := what_run first.1 events
    refine ⟨index, result, answered, by rw [same, outcomeState, named], newest, ?_⟩
    rw [← current]
    exact awaits_of_fetching (unasked_start identity what refresh) found waiting
  · rw [lastShown?_append, show mount.published = _ from published_run first.1 events]
    cases lastShown? (first.1.run events).2 <;> rfl
  · intro later
    have closed : (mount.step .unmount).1.closed = true := by
      cases opened : mount.closed with
      | true => simp only [step, opened, if_true]
      | false => simp [step, opened]
    have quiet := run_of_closed ((turn_step mount .unmount).sound sound) closed later
    have kept : (mount.step .unmount).1.published = mount.published := by
      simp only [step]
      split <;> rfl
    exact ⟨by rw [published_run, lastShown?_of_quiet quiet, kept]; rfl, quiet⟩

/-- The answer for a run that is no longer shown comes late and is dropped; the one for the
run that replaced it is published. -/
theorem slow_answer_is_dropped :
    let first : Mount Nat String × List (MountEffect Nat String) := start 42 "run" .once
    let events : List (MountEvent Nat String) :=
      [.fetch 0, .setIdentity 43, .fetch 1, .settle 0 (some (.ok "run 42"))]
    let mount := (first.1.run events).1
    mount.published = .loading ∧
      (mount.step (.settle 1 (some (.ok "run 43")))).2 = [.published (.loaded "run 43")] ∧
      Awaits first.1 events 1 43 := by
  intro first events mount
  have shown : (mount.step (.settle 1 (some (.ok "run 43")))).2 =
      [.published (.loaded "run 43")] := rfl
  obtain ⟨follows, _⟩ := publication_follows_newest_task 42 "run" (.once : Refresh Nat String) events
  obtain ⟨index, result, answered, _, _, awaits⟩ :=
    follows (.settle 1 (some (.ok "run 43"))) (.loaded "run 43")
      (shown ▸ List.mem_singleton_self _) rfl
  cases answered
  exact ⟨rfl, shown, awaits⟩

end Mount

end RunBoard.Load
