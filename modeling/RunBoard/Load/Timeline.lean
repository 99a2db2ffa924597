import RunBoard.Load.Mount

/-!
# Mounts in time

A mount together with a clock and with the answers that its tasks will get. Time passes
only while the owner waits, and then only when no task has anything to do: the clock moves
to the next answer or to the end of the next sleep.
-/

namespace RunBoard.Load

/-- An answer: there at once or after a delay. Without outcome it has been cancelled. -/
structure Reply (α : Type) where
  delay : Option Nat
  outcome : Option (Except ClientError α)

/-- What a task asks for. -/
structure Fetch (κ α : Type) where
  identity : κ
  previous : Option α

/-- An event that will happen at a moment. -/
structure Due (κ α : Type) where
  moment : Nat
  event : MountEvent κ α

/-- `source` gives the answers and remembers in `memory` what it has given. `versions`
counts the states that have been published. -/
structure Timeline (κ α σ : Type) where
  source : Fetch κ α → σ → Reply α × σ
  mount : Mount κ α
  memory : σ
  now : Nat
  due : List (Due κ α)
  versions : Nat
  fetches : List (Nat × Fetch κ α)

namespace Timeline

variable {κ α σ : Type} [DecidableEq κ]

/-- Takes note of what a turn lets others see. An answer that is there at once is left to
the caller. -/
def note (line : Timeline κ α σ) : MountEffect κ α → Timeline κ α σ × List (MountEvent κ α)
  | .published _ => ({ line with versions := line.versions + 1 }, [])
  | .slept task period =>
      ({ line with due := ⟨line.now + period, .wake task⟩ :: line.due }, [])
  | .asked task identity previous =>
      let fetch : Fetch κ α := ⟨identity, previous⟩
      let (reply, memory) := line.source fetch line.memory
      let asked :=
        { line with memory := memory, fetches := (line.now, fetch) :: line.fetches }
      match reply.delay with
      | none => (asked, [.settle task reply.outcome])
      | some delay =>
          ({ asked with due := ⟨line.now + delay, .settle task reply.outcome⟩ :: line.due }, [])

def noteAll (line : Timeline κ α σ) :
    List (MountEffect κ α) → Timeline κ α σ × List (MountEvent κ α)
  | [] => (line, [])
  | effect :: effects =>
      let (noted, first) := line.note effect
      let (last, rest) := noted.noteAll effects
      (last, first ++ rest)

/-- Takes turns until no answer is left that is there at once. -/
def play (fuel : Nat) (line : Timeline κ α σ) : List (MountEvent κ α) → Timeline κ α σ
  | [] => line
  | event :: events =>
      match fuel with
      | 0 => line
      | fuel + 1 =>
          let (mount, effects) := line.mount.step event
          let (noted, next) := { line with mount := mount }.noteAll effects
          noted.play fuel (next ++ events)

/-- A turn and the one that an immediate answer takes. -/
def turn (line : Timeline κ α σ) (event : MountEvent κ α) : Timeline κ α σ :=
  line.play 4 [event]

/-- What a task can do now: begin its fetch, or notice that it has been cancelled. -/
def readiness (index : Nat) (task : LoadTask κ α) : Option (MountEvent κ α) :=
  match task.phase, task.cancelled with
  | .starting _ _, _ => some (.fetch index)
  | .fetching _ _, true | .sleeping _, true => some (.notice index)
  | _, _ => none

/-- The events that are open now, in the order of the tasks. -/
def ready (line : Timeline κ α σ) : List (MountEvent κ α) :=
  ((List.range line.mount.tasks.length).zip line.mount.tasks).filterMap fun entry =>
    readiness entry.1 entry.2

/-- A cancelled task that begins its fetch goes no further than that. -/
def begin (line : Timeline κ α σ) (event : MountEvent κ α) : Timeline κ α σ :=
  match event with
  | .fetch index =>
      match line.mount.tasks[index]? with
      | some task =>
          if task.cancelled then (line.play 1 [event]).turn (.notice index) else line.turn event
      | none => line
  | event => line.turn event

/-- Lets every task do what it can do now. -/
def settleDown (line : Timeline κ α σ) : Nat → Timeline κ α σ
  | 0 => line
  | fuel + 1 =>
      match line.ready with
      | [] => line
      | events => (events.foldl begin line).settleDown fuel

/-- The first of the events that are due. -/
def earliest : List (Due κ α) → Option (Due κ α)
  | [] => none
  | due :: rest =>
      match earliest rest with
      | some other => if other.moment < due.moment then some other else some due
      | none => some due

/-- Moves the clock to the next event that is due by the deadline. -/
def nextDue (line : Timeline κ α σ) (deadline : Nat) : Option (Timeline κ α σ) :=
  match earliest line.due with
  | none => none
  | some due =>
      if deadline < due.moment then none
      else
        let rest := line.due.filter fun other => other.moment ≠ due.moment
        let same := line.due.filter fun other => other.moment = due.moment
        some ((same.reverse.map Due.event).foldl turn
          { line with now := max line.now due.moment, due := rest })

/-- Waits until the mount is as wanted, at most until the deadline; says whether it is. -/
def waitBy (wanted : Timeline κ α σ → Bool) (deadline : Nat) :
    Nat → Timeline κ α σ → Bool × Timeline κ α σ
  | 0, line => (wanted line, line)
  | fuel + 1, line =>
      let calm := line.settleDown (line.mount.tasks.length + 1)
      if wanted calm then (true, calm)
      else
        match calm.nextDue deadline with
        | none => (false, { calm with now := max calm.now deadline })
        | some moved => moved.waitBy wanted deadline fuel

/-- Waits for something for at most so many milliseconds. -/
def wait (line : Timeline κ α σ) (wanted : Timeline κ α σ → Bool) (millis : Nat) :
    Bool × Timeline κ α σ :=
  line.waitBy wanted (line.now + millis) (2 * millis + line.due.length + line.mount.tasks.length + 2)

/-! ## What the owner does -/

/-- A mount that begins to load an identity at time zero. -/
def start (identity : κ) (what : String) (refresh : Refresh κ α)
    (source : Fetch κ α → σ → Reply α × σ) (memory : σ) : Timeline κ α σ :=
  let (mount, effects) := Mount.start identity what refresh
  (noteAll ⟨source, mount, memory, 0, [], 0, []⟩ effects).1

/-- Lets so many milliseconds pass. -/
def advance (line : Timeline κ α σ) (millis : Nat) : Timeline κ α σ :=
  (line.wait (fun _ => false) millis).2

/-- How long the owner waits for a state. -/
def patience : Nat := 3600000

/-- Waits until the load has settled; `none` when that takes too long. -/
def settled (line : Timeline κ α σ) : Option (LoadState α) × Timeline κ α σ :=
  if line.mount.published.isSettled then (some line.mount.published, line)
  else
    match line.wait (fun line => line.mount.published.isSettled) patience with
    | (true, line) => (some line.mount.published, line)
    | (false, line) => (none, line)

/-- Waits for a state that is published after so many others. -/
def nextChange (line : Timeline κ α σ) (seen : Nat) : Option (LoadState α) × Timeline κ α σ :=
  if seen < line.versions then (some line.mount.published, line)
  else
    match line.wait (fun line => seen < line.versions) patience with
    | (true, line) => (some line.mount.published, line)
    | (false, line) => (none, line)

/-- Stops the mount and lets its tasks end. -/
def unmount (line : Timeline κ α σ) : Timeline κ α σ :=
  let stopped := line.turn .unmount
  stopped.settleDown (stopped.mount.tasks.length + 1)

/-- The fetches since they were last asked for, in order. -/
def takeFetches (line : Timeline κ α σ) : List (Nat × Fetch κ α) × Timeline κ α σ :=
  (line.fetches.reverse, { line with fetches := [] })

end Timeline

end RunBoard.Load
