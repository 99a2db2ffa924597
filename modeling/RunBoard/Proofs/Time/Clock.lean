import RunBoard.Model.Display

/-!
# Displays and the clock

A display is worked out anew whenever it is shown. Between two showings of one record nothing
changes but the duration, and that only while the lifecycle has begun and has not ended: then it
grows by exactly the time between the two.
-/

namespace RunBoard

/-! ## Spans -/

namespace Span

instance : Add Span := ⟨fun first second => ⟨first.millis + second.millis⟩⟩

/-- A count of milliseconds that a signed integer of 64 bits can hold. -/
def Fits (span : Span) : Prop :=
  -9223372036854775808 ≤ span.millis ∧ span.millis < 9223372036854775808

variable {now later : Timestamp}

theorem between_add (start now later : Timestamp) :
    between start now + between now later = between start later := by
  have sum : (now.millis - start.millis) + (later.millis - now.millis) =
      later.millis - start.millis := by omega
  exact congrArg Span.mk sum

theorem add_between_ne (differ : now ≠ later) (span : Span) : span + between now later ≠ span := by
  intro same
  have passed : span.millis + (later.millis - now.millis) = span.millis := congrArg millis same
  exact differ (Timestamp.eq_of_millis (by omega))

end Span

/-! ## The time that a lifecycle takes -/

section Elapsed

variable {started completed : Option Timestamp} {now later : Timestamp}

/-- A time that has been taken by `now`, and is longer by `later` by what has passed between. -/
def Grows (now later : Timestamp) (before after : Option Span) : Prop :=
  ∃ span, before = some span ∧ after = some (span + Span.between now later)

theorem elapsed_grows (began : started.isSome = true) (going : completed = none) :
    Grows now later (elapsed started completed now) (elapsed started completed later) := by
  obtain ⟨start, rfl⟩ := Option.isSome_iff_exists.1 began
  subst going
  exact ⟨Span.between start now, rfl, congrArg some (Span.between_add start now later).symm⟩

theorem elapsed_stays (ended : ¬ (started.isSome = true ∧ completed = none)) :
    elapsed started completed later = elapsed started completed now := by
  cases started with
  | none => rfl
  | some start =>
      cases completed with
      | none => exact absurd ⟨rfl, rfl⟩ ended
      | some finish => rfl

theorem fits_of_elapsed {span : Span} (taken : elapsed started completed now = some span) :
    span.Fits := by
  obtain ⟨start, -, rfl⟩ := Option.map_eq_some_iff.1 taken
  exact Span.between_fits start _

end Elapsed

/-! ## Displays -/

/-- What the clock does to a display from `now` to `later`: only the duration may change, and it
grows exactly when the record is underway. -/
structure StatusDisplay.Passes (now later : Timestamp) (underway : Prop)
    (before after : StatusDisplay) : Prop where
  label : after.label = before.label
  glyph : after.glyph = before.glyph
  successful : after.successful = before.successful
  duration : after.duration = before.duration ∨ Grows now later before.duration after.duration
  grows_iff : now ≠ later → (Grows now later before.duration after.duration ↔ underway)

/-- A display that shows the time of a lifecycle, and nothing else that depends on the clock. -/
theorem StatusDisplay.Passes.of_elapsed {display : Timestamp → StatusDisplay}
    {started completed : Option Timestamp} {underway : Prop}
    (shows : ∀ time other, display other =
      { display time with duration := elapsed started completed other })
    (underway_iff : underway ↔ started.isSome = true ∧ completed = none) (now later : Timestamp) :
    Passes now later underway (display now) (display later) := by
  have timed (time : Timestamp) : (display time).duration = elapsed started completed time :=
    congrArg StatusDisplay.duration (shows time time)
  have same := shows now later
  refine ⟨by rw [same], by rw [same], by rw [same], ?duration, ?grows_iff⟩
  case duration =>
    rw [timed, timed]
    by_cases going : started.isSome = true ∧ completed = none
    · exact .inr (elapsed_grows going.1 going.2)
    · exact .inl (elapsed_stays going)
  case grows_iff =>
    intro differ
    rw [timed, timed, underway_iff]
    constructor
    · rintro ⟨span, first, second⟩
      -- A time that stays the same does not grow.
      refine Decidable.byContradiction fun ended => ?_
      rw [elapsed_stays ended, first] at second
      exact Span.add_between_ne differ span (Option.some.inj second).symm
    · rintro ⟨began, going⟩
      exact elapsed_grows began going

theorem RunState.display_shows (state : RunState) (time other : Timestamp) :
    state.display other =
      { state.display time with duration := elapsed state.startedAt state.completedAt other } := by
  unfold display
  split
  · split <;> rfl
  · split
    · rfl
    · rename_i unstarted
      rw [Option.not_isSome_iff_eq_none.1 unstarted]
      rfl

/-- The start from which the time of a node is shown. What came from a cache has taken none. -/
def NodeState.shownStart (node : NodeState) : Option Timestamp :=
  if node.cacheHit then none else node.startedAt

theorem NodeState.display_shows (node : NodeState) (time other : Timestamp) :
    node.display other =
      { node.display time with duration := elapsed node.shownStart node.completedAt other } := by
  unfold display shownStart
  split
  · rfl
  · split <;> rfl

namespace Job

variable (job : Job)

/-- The start from which the time of a job is shown. A job that waits shows none, even if it has
run before. -/
def shownStart : Option Timestamp :=
  match job.status.state with
  | .pending | .scheduled => none
  | _ => job.startedAt

/-- A job that has completed has done so at the time of its present status. -/
def completedAt : Option Timestamp :=
  if job.isCompleted then some job.status.time else none

theorem display_shows (time other : Timestamp) :
    job.display other =
      { job.display time with duration := elapsed job.shownStart job.completedAt other } := by
  unfold display shownStart completedAt
  cases job.status.state <;> rfl

/-- A running job has a start, if only that of its present status. -/
theorem isSome_startedAt (running : job.status.state = .running) :
    job.startedAt.isSome = true := by
  rw [startedAt, Option.isSome_map, List.find?_isSome]
  exact ⟨job.status, List.mem_append_right _ (List.mem_singleton.2 rfl), by simpa using running⟩

theorem running_iff_underway :
    job.status.state = .running ↔ job.shownStart.isSome = true ∧ job.completedAt = none := by
  unfold shownStart completedAt isCompleted
  cases state : job.status.state with
  | running => exact ⟨fun _ => ⟨job.isSome_startedAt state, rfl⟩, fun _ => rfl⟩
  | pending | scheduled => simp
  | successful | failed | canceled | lost =>
      simp [JobState.isCompleted, JobState.isFailed, JobState.isSuccessful]

end Job

/-! ## Two showings -/

/-- Between two times the displays of a run, a node and a job change in nothing but the duration.
It grows by the time that has passed, and that exactly for a run or a node that has started and
not completed, the node not being from a cache, and for a running job. No time that is worked out
on the way leaves 64 bits. -/
theorem displays_follow_clock_only_while_underway (now later : Timestamp) :
    (∀ state : RunState, StatusDisplay.Passes now later
      (state.isStarted = true ∧ state.isCompleted = false)
      (state.display now) (state.display later)) ∧
    (∀ node : NodeState, StatusDisplay.Passes now later
      (node.startedAt.isSome = true ∧ node.completedAt = none ∧ node.cacheHit = false)
      (node.display now) (node.display later)) ∧
    (∀ job : Job, StatusDisplay.Passes now later (job.status.state = .running)
      (job.display now) (job.display later)) ∧
    ∀ started completed span, elapsed started completed now = some span → span.Fits := by
  refine ⟨fun state => ?run, fun node => ?node, fun job => ?job,
    fun _ _ _ taken => fits_of_elapsed taken⟩
  case run =>
    refine .of_elapsed state.display_shows ?_ now later
    rw [RunState.isStarted, RunState.isCompleted, Option.isSome_eq_false_iff,
      Option.isNone_iff_eq_none]
  case node =>
    refine .of_elapsed node.display_shows ?_ now later
    rw [NodeState.shownStart]
    cases node.cacheHit <;> simp
  case job => exact .of_elapsed job.display_shows job.running_iff_underway now later

/-- A second later a run that is underway has taken a second more. A run that has completed has
not, and neither has a node from a cache, even if it says that it is running. -/
theorem running_run_takes_longer :
    let later : Timestamp := ⟨1000, by decide, by decide⟩
    let going : RunState := ⟨.running, some .epoch, none, 0, []⟩
    let ended : RunState := ⟨.success, some .epoch, some .epoch, 0, []⟩
    let cached : NodeState := ⟨"load", .running, some .epoch, none, none, true⟩
    Timestamp.epoch ≠ later ∧
      Grows .epoch later (going.display .epoch).duration (going.display later).duration ∧
      ¬ Grows .epoch later (ended.display .epoch).duration (ended.display later).duration ∧
      ¬ Grows .epoch later (cached.display .epoch).duration (cached.display later).duration := by
  intro later going ended cached
  have differ : Timestamp.epoch ≠ later := by decide
  obtain ⟨runs, nodes, -⟩ := displays_follow_clock_only_while_underway .epoch later
  refine ⟨differ, ((runs going).grows_iff differ).2 (by decide), fun grows => ?_, fun grows => ?_⟩
  · exact absurd (((runs ended).grows_iff differ).1 grows) (by decide)
  · exact absurd (((nodes cached).grows_iff differ).1 grows) (by decide)

end RunBoard
