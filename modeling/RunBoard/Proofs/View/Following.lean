import RunBoard.Proofs.View.Exchange
import RunBoard.Proofs.View.Tail
import RunBoard.View.LogFollower

/-!
# What a follower prints

A follower reads what the tail of a log and the view of its run show, while both go on by
themselves: requests are made, answered and delivered at any times, and some fail. What is
printed is a beginning of the log at any time. When the follower is done, it is the log as the
tail has read it from the beginning, after the node was found to write no more.
-/

namespace RunBoard

open Load

/-! ## Logs in which every line has a time of its own -/

/-- Every line is newer than those before it. -/
def Increasing (log : List LogLine) : Prop :=
  log.Pairwise fun first second => first.createdAt.millis < second.createdAt.millis

instance (log : List LogLine) : Decidable (Increasing log) :=
  inferInstanceAs (Decidable (List.Pairwise _ log))

theorem Increasing.chronological {log : List LogLine} (increasing : Increasing log) :
    Chronological log :=
  increasing.imp fun before => Int.le_of_lt before

/-- The lines after the last one that is known are those that are missing. -/
theorem append_linesAfter {known log : List LogLine} (increasing : Increasing log)
    (part : known <+: log) : known ++ linesAfter (cursor known) log = log := by
  obtain ⟨added, rfl⟩ := part
  cases ends : known.getLast? with
  | none =>
    obtain rfl := List.getLast?_eq_none_iff.1 ends
    rfl
  | some last =>
    have since : cursor known = some last.createdAt := by
      rw [cursor, ends]
      rfl
    rw [since, linesAfter_of_cursor increasing.chronological ends]
    congr 1
    rw [List.filter_eq_self]
    intro line member
    have later := (List.pairwise_append.1 increasing).2.2 last (List.mem_of_getLast? ends) line
      member
    exact decide_eq_true later

/-- What a printer that has printed the first lines goes on with. -/
theorem append_drop_of_prefixes {printed lines log : List LogLine} (before : printed <+: log)
    (shown : lines <+: log) :
    printed ++ lines.drop printed.length <+: log ∧
      (printed ++ lines.drop printed.length).length = max printed.length lines.length ∧
      (printed <+: lines → printed ++ lines.drop printed.length = lines) := by
  rcases List.prefix_or_prefix_of_prefix before shown with ⟨rest, rfl⟩ | fewer
  · rw [List.drop_left]
    refine ⟨shown, ?_, fun _ => rfl⟩
    rw [List.length_append]
    omega
  · have size := fewer.length_le
    rw [List.drop_eq_nil_of_le size, List.append_nil]
    exact ⟨before, by omega, fun more => more.eq_of_length (by have := more.length_le; omega)⟩

/-! ## A follower between two views -/

structure Following (σ : Type) where
  world : σ
  tail : Exchange LogTarget (List LogLine)
  status : Exchange String Run
  follower : LogFollower
  printed : List LogLine

namespace Following

inductive Event (σ : Type) where
  /-- The world has become another one. -/
  | pass (world : σ)
  | tail (event : Exchange.Event)
  | status (event : Exchange.Event)
  /-- The follower reads what the tail shows; of the states since the last time, only the newest
  is there. -/
  | readLines
  /-- The follower reads what the view of the run shows. -/
  | readRun

variable {σ : Type}

/-- Does what the follower wants done. -/
def obey (state : Following σ) : LogFollower.Effect → Following σ
  | .print lines => { state with printed := state.printed ++ lines }
  | .warn _ => state
  | .readLast target => { state with tail := state.tail.turn (.setIdentity target) }

def read (state : Following σ) (event : LogFollower.Event) : Following σ :=
  let (follower, effects) := state.follower.step event
  effects.foldl obey { state with follower := follower }

section Runs

variable (lines : View (StateM σ) LogTarget (List LogLine)) (runs : View (StateM σ) String Run)

def step (state : Following σ) : Event σ → Following σ
  | .pass world => { state with world := world }
  | .tail event =>
      let (tail, world) := state.tail.step lines state.world event
      { state with tail := tail, world := world }
  | .status event =>
      let (status, world) := state.status.step runs state.world event
      { state with status := status, world := world }
  | .readLines => state.read (.lines state.tail.mount.published)
  | .readRun => state.read (.run state.status.mount.published)

def run (state : Following σ) (events : List (Event σ)) : Following σ :=
  events.foldl (step lines runs) state

def start (target : LogTarget) (id : String) (world : σ) : Following σ :=
  ⟨world, .start lines target, .start runs id, .start target, []⟩

/-- From event to event, lines are only ever appended to the log. -/
def Appends (log : σ → List LogLine) (state : Following σ) : List (Event σ) → Prop
  | [] => True
  | event :: events =>
      log state.world <+: log (state.step lines runs event).world ∧
        (state.step lines runs event).Appends log events

instance decidableAppends (log : σ → List LogLine) :
    (state : Following σ) → (events : List (Event σ)) →
      Decidable (state.Appends lines runs log events)
  | _, [] => inferInstanceAs (Decidable True)
  | state, event :: events =>
      have := decidableAppends log (state.step lines runs event) events
      inferInstanceAs (Decidable (_ ∧ _))

/-- The answer that `task` is waiting for now, having asked for the whole log once more, would
be these lines. -/
structure ReadsWhole (target : LogTarget) (state : Following σ) (task : Nat)
    (answer : List LogLine) : Prop where
  asked : ∃ loading ticket, state.tail.mount.tasks[task]? = some loading ∧
    loading.identity = { target with follow := false } ∧ loading.phase = .fetching ticket none
  waiting : state.tail.replies task = none
  came : ((lines.fetch { target with follow := false } none).await state.world).1 =
    some (.ok answer)

variable {lines runs}

theorem run_concat (state : Following σ) (events : List (Event σ)) (event : Event σ) :
    state.run lines runs (events ++ [event]) =
      (state.run lines runs events).step lines runs event := by
  simp [run]

theorem appends_concat {log : σ → List LogLine} {state : Following σ} {events : List (Event σ)}
    {event : Event σ} (appends : state.Appends lines runs log (events ++ [event])) :
    state.Appends lines runs log events ∧
      log (state.run lines runs events).world <+:
        log ((state.run lines runs events).step lines runs event).world := by
  induction events generalizing state with
  | nil => exact ⟨trivial, appends.1⟩
  | cons first events ih =>
    obtain ⟨rest, last⟩ := ih appends.2
    exact ⟨⟨appends.1, rest⟩, last⟩

theorem appends_append {log : σ → List LogLine} {state : Following σ}
    {first second : List (Event σ)} (early : state.Appends lines runs log first)
    (late : (state.run lines runs first).Appends lines runs log second) :
    state.Appends lines runs log (first ++ second) := by
  induction first generalizing state with
  | nil => exact late
  | cons event rest ih => exact ⟨early.1, ih early.2 late⟩

theorem appends_of_append {log : σ → List LogLine} {state : Following σ}
    {first second : List (Event σ)} (appends : state.Appends lines runs log (first ++ second)) :
    state.Appends lines runs log first := by
  induction first generalizing state with
  | nil => trivial
  | cons event rest ih => exact ⟨appends.1, ih appends.2⟩

theorem prefix_of_appends {log : σ → List LogLine} {state : Following σ}
    {events : List (Event σ)} (appends : state.Appends lines runs log events) :
    log state.world <+: log (state.run lines runs events).world := by
  induction events generalizing state with
  | nil => exact List.prefix_refl _
  | cons event rest ih => exact appends.1.trans (ih appends.2)

end Runs

/-! ## Reading -/

/-- What the follower makes of what it reads: nothing, or it prints the lines that are new, or
it has the log read once more. -/
inductive Reads (state : Following σ) : LogFollower.Event → Following σ → Prop
  | rest (event : LogFollower.Event) : Reads state event state
  | print (lines : List LogLine) (going : state.follower.isDone = false) :
      Reads state (.lines (.loaded lines))
        { state with
          follower :=
            { state.follower with
              printed := max state.follower.printed lines.length
              isDone := state.follower.isLast }
          printed := state.printed ++ lines.drop state.follower.printed }
  | readLast (run : Run) (going : state.follower.isDone = false)
      (streams : state.follower.isLast = false) :
      Reads state (.run (.loaded run))
        { state with
          follower := { state.follower with isLast := true }
          tail := state.tail.turn (.setIdentity state.follower.lastTarget) }

theorem reads_read (state : Following σ) (event : LogFollower.Event) :
    Reads state event (state.read event) := by
  unfold read LogFollower.step
  cases going : state.follower.isDone with
  | true => exact .rest event
  | false =>
    cases event with
    | lines shown =>
      cases shown with
      | idle | loading | failed => exact .rest _
      | loaded lines => simpa [obey] using Reads.print lines going
    | run shown =>
      cases shown with
      | idle | loading | failed => exact .rest _
      | loaded run =>
        simp only [Bool.false_eq_true, if_false]
        split
        case isTrue => exact .rest _
        case isFalse goesOn =>
          have streams : state.follower.isLast = false := by
            cases last : state.follower.isLast with
            | false => rfl
            | true => simp [last] at goesOn
          simpa [obey, going] using Reads.readLast run going streams

/-! ## The invariant -/

/-- What holds of lines that have come of an answer: they are a beginning of the log. When the
tail shall stop with them, they begin with what is printed and are one of the answers `whole`. -/
def Came (log : σ → List LogLine) (whole : List LogLine → Prop) (state : Following σ)
    (identity : LogTarget) (lines : List LogLine) : Prop :=
  lines <+: log state.world ∧
    (identity.follow = false → state.follower.isDone = false →
      state.follower.isLast = true ∧ state.printed <+: lines ∧ whole lines)

/-- What every event keeps. The answers to a request for the whole log, once the tail has been
told to read it so, are among `whole`. -/
structure Kept (log : σ → List LogLine) (refresh : Refresh LogTarget (List LogLine))
    (target : LogTarget) (whole : List LogLine → Prop) (state : Following σ) : Prop where
  holds : state.tail.Holds (Came log whole state)
  aims {index : Nat} {task : LoadTask LogTarget (List LogLine)}
    (found : state.tail.mount.tasks[index]? = some task) :
    ∃ follow, task.identity = { target with follow := follow } ∧
      (follow = false → state.follower.isLast = true)
  policy : state.tail.mount.refresh = refresh
  identity : state.tail.mount.identity = { target with follow := !state.follower.isLast }
  opened : state.tail.mount.closed = false
  aim : state.follower.target = target
  count : state.printed.length = state.follower.printed
  printed : state.printed <+: log state.world
  done : state.follower.isDone = true → whole state.printed

variable {log : σ → List LogLine} {refresh : Refresh LogTarget (List LogLine)}
  {target : LogTarget} {whole more : List LogLine → Prop} {state : Following σ}

/-- The log grows, and there are more answers. -/
theorem Came.mono (later : Following σ) {identity : LogTarget} {lines : List LogLine}
    (came : Came log whole state identity lines) (grows : log state.world <+: log later.world)
    (wider : ∀ lines, whole lines → more lines) (follower : later.follower = state.follower)
    (printed : later.printed = state.printed) : Came log more later identity lines := by
  refine ⟨came.1.trans grows, ?_⟩
  rw [follower, printed]
  intro stops going
  obtain ⟨last, begins, among⟩ := came.2 stops going
  exact ⟨last, begins, wider lines among⟩

namespace Kept

/-- An event that leaves tail and follower alone. -/
theorem elsewhere (kept : Kept log refresh target whole state) {later : Following σ}
    (grows : log state.world <+: log later.world) (wider : ∀ lines, whole lines → more lines)
    (tail : later.tail = state.tail) (follower : later.follower = state.follower)
    (printed : later.printed = state.printed) : Kept log refresh target more later where
  holds := by
    rw [tail]
    exact kept.holds.imp fun _ _ came => came.mono later grows wider follower printed
  aims found := by
    rw [tail] at found
    rw [follower]
    exact kept.aims found
  policy := by rw [tail, kept.policy]
  identity := by rw [tail, follower, kept.identity]
  opened := by rw [tail, kept.opened]
  aim := by rw [follower, kept.aim]
  count := by rw [printed, follower, kept.count]
  printed := by
    rw [printed]
    exact kept.printed.trans grows
  done := by
    rw [follower, printed]
    exact fun ended => wider _ (kept.done ended)

end Kept

/-! ## Turns of the tail -/

section Tail

variable {ask : LogTarget → Option Timestamp → Pending (StateM σ) ClientError (List LogLine)}
  {period : Nat} {runs : View (StateM σ) String Run}

/-- A request for the lines after a time that succeeds is answered with these lines of the log,
whether or not the target is followed. -/
def Honest (ask : LogTarget → Option Timestamp → Pending (StateM σ) ClientError (List LogLine))
    (log : σ → List LogLine) (target : LogTarget) : Prop :=
  ∀ follow since world newer,
    ((ask { target with follow := follow } since).await world).1 = some (.ok newer) →
      newer = linesAfter since (log world)

/-- An answer makes the lines that a task knows up to the log that is there. -/
theorem Honest.whole_log (honest : Honest ask log target)
    (increasing : ∀ world, Increasing (log world))
    {identity : LogTarget} (aims : ∃ follow, identity = { target with follow := follow })
    {previous : Option (List LogLine)} {world : σ}
    (part : ∀ known ∈ previous, known <+: log world) {answer : List LogLine}
    (came : (((View.tail ask period).fetch identity previous).await world).1 = some (.ok answer)) :
    answer = log world := by
  obtain ⟨follow, rfl⟩ := aims
  have mapped := Pending.await_map_eq (fun newer => previous.getD [] ++ newer)
    (ask { target with follow := follow } (cursor (previous.getD []))) world
  have begins : previous.getD [] <+: log world := by
    cases previous with
    | none => exact List.nil_prefix
    | some known => exact part known rfl
  have got := honest follow (cursor (previous.getD [])) world
  cases settled : ((ask { target with follow := follow } (cursor (previous.getD []))).await
      world).1 with
  | none =>
    rw [settled] at mapped
    cases mapped.symm.trans came
  | some outcome =>
    rw [settled] at mapped
    cases outcome with
    | error error => cases mapped.symm.trans came
    | ok newer =>
      cases mapped.symm.trans came
      rw [got newer settled]
      exact append_linesAfter (increasing world) begins

/-- Every event of the tail keeps the invariant. -/
theorem Kept.tail {lines : View (StateM σ) LogTarget (List LogLine)}
    (kept : Kept log lines.refresh target whole state)
    (stops : ∀ target : LogTarget, target.follow = false → ∀ got,
      lines.refresh.pause target (some got) = none)
    (gives : ∀ follow previous answer, (∀ known ∈ previous, known <+: log state.world) →
      ((lines.fetch { target with follow := follow } previous).await state.world).1 =
        some (.ok answer) → answer = log state.world)
    (event : Exchange.Event) (wider : ∀ answer, whole answer → more answer)
    (answered : ∀ task, event = .answer task →
      state.ReadsWhole lines target task (log state.world) → more (log state.world))
    (grows : log state.world <+: log (state.step lines runs (.tail event)).world) :
    Kept log lines.refresh target more (state.step lines runs (.tail event)) := by
  have holds : (state.tail.step lines state.world event).1.Holds (Came log more state) := by
    apply Exchange.Holds.step
      (kept.holds.imp fun _ _ came => came.mono state (List.prefix_refl _) wider rfl rfl)
    intro task loading ticket previous answer answers found waits free known came
    obtain ⟨follow, same, last⟩ := kept.aims found
    rw [same] at came known ⊢
    have all : answer = log state.world :=
      gives follow previous answer (fun before told => (known before told).1.1) came
    subst all
    refine ⟨List.prefix_refl _, ?_⟩
    rintro rfl going
    -- A task that shall stop with its first success has none behind it.
    have fresh : previous = none := by
      cases previous with
      | none => rfl
      | some before =>
        obtain ⟨period, again⟩ := (known before rfl).2
        rw [kept.policy, stops _ rfl] at again
        cases again
    subst fresh
    exact ⟨last rfl, kept.printed,
      answered task answers ⟨⟨loading, ticket, found, same, waits⟩, free, came⟩⟩
  have later := holds.imp fun identity answer came =>
    came.mono (state.step lines runs (.tail event)) grows (fun _ among => among) rfl rfl
  rcases Exchange.mount_step lines state.tail state.world event with same | ⟨own, isTask, stepped⟩
  · exact
      { holds := later
        aims := fun found => kept.aims (same ▸ found)
        policy := (congrArg Mount.refresh same).trans kept.policy
        identity := (congrArg Mount.identity same).trans kept.identity
        opened := (congrArg Mount.closed same).trans kept.opened
        aim := kept.aim
        count := kept.count
        printed := kept.printed.trans grows
        done := fun ended => wider _ (kept.done ended) }
  · have turn := Mount.turn_step state.tail.mount own
    obtain ⟨sameIdentity, sameClosed⟩ := turn.of_isTask isTask
    exact
      { holds := later
        aims := by
          intro index task found
          rcases turn.of_task (stepped ▸ found) with ⟨old, before, same⟩ | loads
          · rw [same]
            exact kept.aims before
          · refine ⟨!state.follower.isLast, loads.trans (sameIdentity.trans kept.identity), ?_⟩
            intro stops
            have last : state.follower.isLast = true := by simpa using stops
            exact last
        policy := (congrArg Mount.refresh stepped).trans (turn.refresh.trans kept.policy)
        identity := (congrArg Mount.identity stepped).trans (sameIdentity.trans kept.identity)
        opened := (congrArg Mount.closed stepped).trans (sameClosed.trans kept.opened)
        aim := kept.aim
        count := kept.count
        printed := kept.printed.trans grows
        done := fun ended => wider _ (kept.done ended) }

end Tail

/-! ## Turns of the follower -/

/-- What the follower reads keeps the invariant. -/
theorem Kept.read (kept : Kept log refresh target whole state) (event : LogFollower.Event)
    (fromTail : ∀ shown, event = .lines shown → shown = state.tail.mount.published) :
    Kept log refresh target whole (state.read event) := by
  have reads := reads_read state event
  generalize state.read event = later at reads
  cases reads with
  | rest => exact kept
  | print lines going =>
    -- What is shown and what has been printed are beginnings of one log.
    have came := kept.holds.shown (fromTail _ rfl).symm
    rw [kept.identity] at came
    obtain ⟨whole', size, all⟩ := append_drop_of_prefixes kept.printed came.1
    rw [kept.count] at whole' size all
    exact
      { holds := kept.holds.imp fun identity answer came => by
          refine ⟨came.1, ?_⟩
          intro stops streams
          have last := (came.2 stops going).1
          rw [last] at streams
          cases streams
        aims := kept.aims
        policy := kept.policy
        identity := kept.identity
        opened := kept.opened
        aim := kept.aim
        count := size
        printed := whole'
        done := by
          intro ended
          have last : state.follower.isLast = true := ended
          obtain ⟨-, begins, among⟩ := came.2 (by simp [last]) going
          rw [all begins]
          exact among }
  | readLast run going streams =>
    -- The target is another one now, so a task begins that knows nothing.
    have other : state.follower.lastTarget ≠ state.tail.mount.identity := by
      rw [kept.identity, LogFollower.lastTarget, kept.aim, streams]
      intro same
      have := congrArg LogTarget.follow same
      simp at this
    have turn := Mount.turn_step state.tail.mount (.setIdentity state.follower.lastTarget)
    have restarted : (state.tail.mount.step (.setIdentity state.follower.lastTarget)).1 =
        ({ state.tail.mount with identity := state.follower.lastTarget }.restart).1 :=
      congrArg Prod.fst (Mount.step_setIdentity kept.opened other)
    have identity : (state.tail.mount.step (.setIdentity state.follower.lastTarget)).1.identity =
        { target with follow := false } := by
      rw [restarted, ← kept.aim]
      rfl
    have holds : (state.tail.turn (.setIdentity state.follower.lastTarget)).Holds
        (Came log whole state) :=
      kept.holds.turn fun _ _ same => by cases same
    exact
      { holds := holds.imp fun identity answer came => by
          refine ⟨came.1, ?_⟩
          intro stops going
          have last := (came.2 stops going).1
          rw [last] at streams
          cases streams
        aims := by
          intro index task found
          rcases turn.of_task found with ⟨old, before, same⟩ | loads
          · obtain ⟨follow, aims, -⟩ := kept.aims before
            exact ⟨follow, same.trans aims, fun _ => rfl⟩
          · exact ⟨false, loads.trans identity, fun _ => rfl⟩
        policy := turn.refresh.trans kept.policy
        identity := identity
        opened := (congrArg Mount.closed restarted).trans kept.opened
        aim := kept.aim
        count := kept.count
        printed := kept.printed
        done := kept.done }

/-! ## Runs -/

section Runs

variable {ask : LogTarget → Option Timestamp → Pending (StateM σ) ClientError (List LogLine)}
  {period : Nat} {runs : View (StateM σ) String Run}

/-- The tail has read the whole log once more in these events, and these lines are what it got:
the log as it was when the request was answered. -/
def WasRead (lines : View (StateM σ) LogTarget (List LogLine)) (runs : View (StateM σ) String Run)
    (log : σ → List LogLine) (target : LogTarget) (first : Following σ) (events : List (Event σ))
    (answer : List LogLine) : Prop :=
  ∃ earlier task later, events = earlier ++ .tail (.answer task) :: later ∧
    (first.run lines runs earlier).ReadsWhole lines target task answer ∧
    answer = log (first.run lines runs earlier).world

theorem WasRead.concat {lines : View (StateM σ) LogTarget (List LogLine)} {first : Following σ}
    {events : List (Event σ)} {answer : List LogLine}
    (was : WasRead lines runs log target first events answer) (event : Event σ) :
    WasRead lines runs log target first (events ++ [event]) answer := by
  obtain ⟨earlier, task, later, split, reads, all⟩ := was
  exact ⟨earlier, task, later ++ [event], by simp [split], reads, all⟩

theorem kept_start {lines : View (StateM σ) LogTarget (List LogLine)}
    (follow : target.follow = true) (id : String) (world : σ) :
    Kept log lines.refresh target whole (start lines runs target id world) where
  holds := .start lines target
  aims found := by
    refine ⟨true, ?_, nofun⟩
    rcases Mount.task_of_restart found with ⟨_, same, _, _⟩ | ⟨old, before, _⟩
    · rw [same, ← follow]
    · cases before
  policy := rfl
  identity := by
    change target = { target with follow := true }
    rw [← follow]
  opened := rfl
  aim := rfl
  count := rfl
  printed := List.nil_prefix
  done := nofun

theorem kept_run (honest : Honest ask log target) (increasing : ∀ world, Increasing (log world))
    (follow : target.follow = true) {id : String} {world : σ} {events : List (Event σ)}
    (appends : (start (View.tail ask period) runs target id world).Appends (View.tail ask period)
      runs log events) :
    let first := start (View.tail ask period) runs target id world
    Kept log (View.tail ask period).refresh target
      (WasRead (View.tail ask period) runs log target first events)
      (first.run (View.tail ask period) runs events) := by
  intro first
  -- From the end: a later event leaves the answers of the earlier ones where they are.
  induction events using List.reverseRecOn with
  | nil => exact kept_start follow id world
  | append_singleton events event ih =>
    obtain ⟨before, grows⟩ := appends_concat appends
    have kept := ih before
    have wider (answer : List LogLine) :
        WasRead (View.tail ask period) runs log target first events answer →
          WasRead (View.tail ask period) runs log target first (events ++ [event]) answer :=
      fun was => was.concat event
    rw [run_concat]
    cases event with
    | pass later => exact kept.elsewhere grows wider rfl rfl rfl
    | status event => exact kept.elsewhere grows wider rfl rfl rfl
    | readLines =>
      refine (kept.elsewhere (List.prefix_refl _) wider rfl rfl rfl).read (.lines _) ?_
      rintro shown ⟨⟩
      rfl
    | readRun =>
      exact (kept.elsewhere (List.prefix_refl _) wider rfl rfl rfl).read (.run _) nofun
    | tail event =>
      apply kept.tail ?_ ?_ event wider ?_ grows
      · intro target stops got
        simp [View.tail, Refresh.pause, stops]
      · intro follow previous answer part came
        exact honest.whole_log increasing ⟨follow, rfl⟩ part came
      · rintro task rfl reads
        exact ⟨events, task, [], rfl, reads, rfl⟩

/-- A tail that stops with its first success shows what that was answered with. -/
theorem loaded_once (view : View (StateM σ) LogTarget (List LogLine)) {identity : LogTarget}
    {world : σ} {answer : List LogLine} (shown : (view.once identity world).1 = .loaded answer) :
    ((view.fetch identity none).await world).1 = some (.ok answer) := by
  have ready := View.ready_mount view identity
  have asked : (view.once identity world).1 =
      (View.answered (view.mount identity)
        ((view.fetch identity none).await world).1).published := by
    rw [View.once, View.load_of_ready ready]
    rfl
  rw [asked] at shown
  cases came : ((view.fetch identity none).await world).1 with
  | none =>
    rw [came] at shown
    cases shown
  | some result =>
    rw [came, View.published_answered ready] at shown
    cases result with
    | ok got =>
      cases shown
      rfl
    | error error => cases shown

/-- A log is only ever appended to, every line with a time of its own, and the gateway answers
with the lines after a time, unless it fails. A follower of the log then has printed a beginning
of the log, whatever has happened, and when it is done, what a request for the whole log was
answered with, after the tail had been told to stop: the log as it was then. When the node cannot
write any more from the outset, the lines that one such request shows are the log as well. -/
theorem followed_log_is_printed_once
    (ask : LogTarget → Option Timestamp → Pending (StateM σ) ClientError (List LogLine))
    (period : Nat) (runs : View (StateM σ) String Run) (log : σ → List LogLine)
    (target : LogTarget) (id : String) (world : σ)
    (increasing : ∀ world, Increasing (log world)) (honest : Honest ask log target) :
    let tail := View.tail ask period
    (target.follow = true → ∀ events : List (Event σ),
      (start tail runs target id world).Appends tail runs log events →
      let first := start tail runs target id world
      let last := first.run tail runs events
      last.printed <+: log last.world ∧
      (last.follower.isDone = true →
        ∃ earlier task later, events = earlier ++ .tail (.answer task) :: later ∧
          (first.run tail runs earlier).ReadsWhole tail target task last.printed ∧
          last.printed = log (first.run tail runs earlier).world)) ∧
    ∀ lines, (tail.once { target with follow := false } world).1 = .loaded lines →
      lines = log world := by
  intro tail
  constructor
  · intro follow events appends first last
    have kept := kept_run honest increasing follow appends
    exact ⟨kept.printed, kept.done⟩
  · intro lines shown
    have untold : ∀ known ∈ (none : Option (List LogLine)), known <+: log world := nofun
    exact honest.whole_log increasing ⟨false, rfl⟩ untold (loaded_once tail shown)

end Runs

/-! ## A node that finishes -/

/-- How much of the log there is, and whether the gateway is too busy to answer. -/
structure Stage where
  count : Nat
  busy : Bool

def Stage.written (stage : Stage) : List LogLine := View.finishedLog.take stage.count

def stageAsk (_ : LogTarget) (since : Option Timestamp) :
    Pending (StateM Stage) ClientError (List LogLine) :=
  .request fun stage =>
    (if stage.busy then .error (.http 503 "busy") else .ok (linesAfter since stage.written), stage)

/-- A run of which the one node has just completed. -/
def finishedRun : Run where
  id := "r1"
  name := none
  parent := none
  createdAt := .epoch
  owner := .nobody
  pkg := .unnamed
  seed := 0
  tags := []
  notes := none
  params := .empty
  state :=
    { status := .running
      startedAt := some .epoch
      completedAt := none
      progress := 1
      nodes := [⟨"geoind", .success, some .epoch, some .epoch, none, false⟩] }
  children := []

def stageRuns : View (StateM Stage) String Run :=
  ⟨"run", .every 50 fun _ run => run.state.isCompleted, fun _ _ => .ready (.ok finishedRun)⟩

theorem honest_stageAsk (target : LogTarget) : Honest stageAsk Stage.written target := by
  intro follow since stage newer came
  have settled : ((stageAsk { target with follow := follow } since).await stage).1 =
      some (if stage.busy then .error (.http 503 "busy")
        else .ok (linesAfter since stage.written)) := rfl
  rw [settled] at came
  split at came
  · cases came
  · cases came
    rfl

theorem increasing_written (stage : Stage) : Increasing stage.written := by
  have all : Increasing View.finishedLog := by decide
  exact List.Pairwise.sublist (List.take_sublist _ _) all

/-- The first line is printed, a poll fails while the second one is written, and the run is seen
to have completed. The tail reads the log once more. -/
def finish : List (Event Stage) :=
  [.tail (.ask 0), .tail (.answer 0), .tail (.deliver 0), .readLines, .pass ⟨2, true⟩,
    .tail (.wake 0), .tail (.ask 0), .tail (.answer 0), .tail (.deliver 0), .pass ⟨2, false⟩,
    .status (.ask 0), .status (.answer 0), .status (.deliver 0), .readRun, .readLines,
    .tail (.ask 1), .tail (.answer 1), .tail (.notice 0), .tail (.deliver 1), .readLines]

/-- The line that came while the poll failed is printed, and the first one is not printed again. -/
theorem finished_log_is_printed :
    let tail := View.tail stageAsk 50
    let first := start tail stageRuns View.exampleTarget "r1" ⟨1, false⟩
    let last := first.run tail stageRuns finish
    first.Appends tail stageRuns Stage.written finish ∧ last.printed = View.finishedLog ∧
      ∃ earlier task later, finish = earlier ++ .tail (.answer task) :: later ∧
        last.printed = (first.run tail stageRuns earlier).world.written := by
  have honest := honest_stageAsk View.exampleTarget
  have follows := (followed_log_is_printed_once stageAsk 50 stageRuns Stage.written
    View.exampleTarget "r1" ⟨1, false⟩ increasing_written honest).1 rfl finish (by decide +kernel)
  dsimp only at follows ⊢
  obtain ⟨earlier, task, later, split, -, all⟩ := follows.2 (by decide +kernel)
  exact ⟨by decide +kernel, by decide +kernel, earlier, task, later, split, all⟩

end Following

end RunBoard
