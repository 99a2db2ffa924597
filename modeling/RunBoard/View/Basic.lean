import RunBoard.Load.Mount
import RunBoard.Request.Pending

/-!
# Views

A view says how its content is asked for and when it is asked for again. Here the owner of
a mounted view also takes the turns of its newest task, one after the other.
-/

namespace RunBoard

open Load

/-- Content of type `α`, chosen by an identity. A fetch is told the last data that the same
task got. -/
structure View (m : Type → Type) (κ α : Type) where
  what : String
  refresh : Refresh κ α
  fetch : κ → Option α → Pending m ClientError α

namespace View

variable {m : Type → Type} [Monad m] {κ α : Type} [DecidableEq κ]

/-- Begins to load an identity. -/
def mount (view : View m κ α) (identity : κ) : Mount κ α :=
  (Mount.start identity view.what view.refresh).1

/-- Lets the newest task ask for its content and take what comes. -/
def load (view : View m κ α) (mount : Mount κ α) : m (Mount κ α) := do
  let newest := mount.tasks.length - 1
  match mount.tasks[newest]? with
  | some ⟨identity, _, .starting _ previous⟩ => do
      let came ← (view.fetch identity previous).await
      return ((mount.step (.fetch newest)).1.step (.settle newest came)).1
  | _ => return mount

/-- Ends the sleep of the newest task. -/
def wake (mount : Mount κ α) : Mount κ α :=
  (mount.step (.wake (mount.tasks.length - 1))).1

def settled (view : View m κ α) (mount : Mount κ α) : m (Mount κ α) :=
  if mount.published.isSettled then return mount else view.load mount

/-- Loads an identity and shows the state that comes first. -/
def once (view : View m κ α) (identity : κ) : m (LoadState α) := do
  return (← view.load (view.mount identity)).published

/-- Loads, and sleeps and loads again, until the newest task has ended; at most so many
times. Everything that is shown on the way goes to the onlooker. -/
def follow (view : View m κ α) (pause : m Unit) (onlooker : LoadState α → m Unit) :
    Nat → Mount κ α → m (Mount κ α)
  | 0, mount => return mount
  | rounds + 1, mount => do
      let loaded ← view.load mount
      onlooker loaded.published
      if loaded.isFinished then return loaded
      else
        pause
        view.follow pause onlooker rounds (wake loaded)

end View

end RunBoard
