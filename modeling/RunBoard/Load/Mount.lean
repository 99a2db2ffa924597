import RunBoard.Client.Error
import RunBoard.Load.Container

/-!
# Mounts

A mount keeps the container of a view loaded. Its owner chooses what is shown; for every
choice a task of its own fetches, hands over what it got and, when the view is polled,
sleeps and fetches again. A new choice cancels the task before it, and the ticket of the
container turns away what an old task still brings.

Owner and tasks take turns in any order: each event is one turn, which nothing interrupts.
-/

namespace RunBoard.Load

/-- When to fetch again. -/
inductive Refresh (κ α : Type) where
  /-- Never, for one identity. -/
  | once
  /-- After every `period` milliseconds, until the data is final. -/
  | every (period : Nat) (isFinal : κ → α → Bool)

namespace Refresh

variable {κ α : Type}

/-- How long a task sleeps after what it got; `none` when it is done. A failure is never
final for a view that is polled. -/
def pause (refresh : Refresh κ α) (identity : κ) (got : Option α) : Option Nat :=
  match refresh, got with
  | once, _ => none
  | every period isFinal, some data => if isFinal identity data then none else some period
  | every period _, none => some period

end Refresh

/-- Where a task is. `previous` is the last data that it got. -/
inductive Phase (α : Type) where
  | starting (ticket : Ticket) (previous : Option α)
  | fetching (ticket : Ticket) (previous : Option α)
  | sleeping (previous : Option α)
  | ended

namespace Phase

variable {α : Type}

def isEnded : Phase α → Bool
  | ended => true
  | _ => false

end Phase

structure LoadTask (κ α : Type) where
  identity : κ
  cancelled : Bool
  phase : Phase α

/-- The view loads `identity`; the last task is the one that loads it. `published` is what
onlookers see. -/
structure Mount (κ α : Type) where
  what : String
  refresh : Refresh κ α
  identity : κ
  container : Container κ α
  published : LoadState α
  tasks : List (LoadTask κ α)
  closed : Bool

inductive MountEvent (κ α : Type) where
  | setIdentity (identity : κ)
  | reload
  /-- The owner stops the task and tears the container down. -/
  | unmount
  /-- The owner goes away. -/
  | drop
  /-- Task number `task` asks for its content. -/
  | fetch (task : Nat)
  /-- What task number `task` asked for is there, or has been cancelled. -/
  | settle (task : Nat) (outcome : Option (Except ClientError α))
  /-- The sleep of task number `task` is over. -/
  | wake (task : Nat)
  /-- Task number `task` notices that it has been cancelled. -/
  | notice (task : Nat)

/-- What a turn lets others see. -/
inductive MountEffect (κ α : Type) where
  | published (state : LoadState α)
  | asked (task : Nat) (identity : κ) (previous : Option α)
  | slept (task : Nat) (period : Nat)

namespace Mount

variable {κ α : Type}

def setPhase (mount : Mount κ α) (index : Nat) (phase : Phase α) : Mount κ α :=
  { mount with tasks := mount.tasks.modify index fun task => { task with phase := phase } }

/-- Shows the state of the container to onlookers. -/
def publish (mount : Mount κ α) (container : Container κ α) :
    Mount κ α × List (MountEffect κ α) :=
  ({ mount with container := container, published := container.state },
    [.published container.state])

/-- Cancels the newest task. -/
def cancelNewest (mount : Mount κ α) : Mount κ α :=
  { mount with
    tasks := mount.tasks.modify (mount.tasks.length - 1) fun task => { task with cancelled := true } }

/-- Requests the identity anew, by a new task. -/
def restart (mount : Mount κ α) : Mount κ α × List (MountEffect κ α) :=
  let container := mount.container.request mount.identity
  let task := ⟨mount.identity, false, .starting container.ticket none⟩
  let cancelled := mount.cancelNewest
  { cancelled with tasks := cancelled.tasks ++ [task] }.publish container

/-- A mount that begins to load an identity. -/
def start (identity : κ) (what : String) (refresh : Refresh κ α) :
    Mount κ α × List (MountEffect κ α) :=
  restart ⟨what, refresh, identity, .empty, .idle, [], false⟩

/-- What task `index` does with the result that it asked for by `ticket`. -/
def settle (mount : Mount κ α) (index : Nat) (task : LoadTask κ α) (ticket : Ticket)
    (previous : Option α) (result : Except ClientError α) :
    Mount κ α × List (MountEffect κ α) :=
  if task.cancelled then (mount.setPhase index .ended, [])
  else
    match mount.container.resolve ticket (result.mapError fun error => error.notice mount.what) with
    | (.applied, container) =>
        let (shown, effects) := mount.publish container
        match mount.refresh.pause task.identity result.toOption with
        | none => (shown.setPhase index .ended, effects)
        | some period =>
            (shown.setPhase index (.sleeping (result.toOption <|> previous)),
              effects ++ [.slept index period])
    | (_, _) => (mount.setPhase index .ended, [])

/-- What task `index` does when its sleep is over. -/
def wake (mount : Mount κ α) (index : Nat) (task : LoadTask κ α) (previous : Option α) :
    Mount κ α × List (MountEffect κ α) :=
  if task.cancelled || mount.container.tornDown then (mount.setPhase index .ended, [])
  else
    let container := mount.container.request task.identity
    let (shown, effects) := mount.publish container
    (shown.setPhase index (.starting container.ticket previous), effects)

/-- One turn. A turn that is not open to its task or owner changes nothing. -/
def step [DecidableEq κ] (mount : Mount κ α) :
    MountEvent κ α → Mount κ α × List (MountEffect κ α)
  | .setIdentity identity =>
      if mount.closed || identity = mount.identity then (mount, [])
      else { mount with identity := identity }.restart
  | .reload => if mount.closed then (mount, []) else mount.restart
  | .unmount =>
      if mount.closed then (mount, [])
      else
        ({ mount.cancelNewest with container := mount.container.teardown, closed := true }, [])
  | .drop => if mount.closed then (mount, []) else ({ mount.cancelNewest with closed := true }, [])
  | .fetch index =>
      match mount.tasks[index]? with
      | some ⟨identity, _, .starting ticket previous⟩ =>
          (mount.setPhase index (.fetching ticket previous), [.asked index identity previous])
      | _ => (mount, [])
  | .settle index outcome =>
      match mount.tasks[index]? with
      | some task =>
          match task.phase, outcome with
          | .fetching _ _, none => (mount.setPhase index .ended, [])
          | .fetching ticket previous, some result =>
              mount.settle index task ticket previous result
          | _, _ => (mount, [])
      | none => (mount, [])
  | .wake index =>
      match mount.tasks[index]? with
      | some task =>
          match task.phase with
          | .sleeping previous => mount.wake index task previous
          | _ => (mount, [])
      | none => (mount, [])
  | .notice index =>
      match mount.tasks[index]? with
      | some task =>
          match task.cancelled, task.phase with
          | true, .fetching _ _ | true, .sleeping _ => (mount.setPhase index .ended, [])
          | _, _ => (mount, [])
      | none => (mount, [])

/-- Whether the newest task has ended. -/
def isFinished (mount : Mount κ α) : Bool :=
  match mount.tasks.getLast? with
  | some task => task.phase.isEnded
  | none => true

/-- Many turns, with everything that they let others see. -/
def run [DecidableEq κ] (mount : Mount κ α) :
    List (MountEvent κ α) → Mount κ α × List (MountEffect κ α)
  | [] => (mount, [])
  | event :: events =>
      let (next, first) := mount.step event
      let (last, rest) := next.run events
      (last, first ++ rest)

end Mount

end RunBoard.Load
