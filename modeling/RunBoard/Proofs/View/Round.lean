import RunBoard.Proofs.Load.Turn
import RunBoard.View.Basic

/-!
# Rounds of a polled view

Between two rounds the newest task of a mount is about to ask, told the last data that it
got. One round shows what came and, unless that is final, leaves the mount about to ask
again; a failure leaves the task with the data that it had.
-/

namespace RunBoard.View

open Load

variable {κ α : Type}

/-- The newest task of a mount is about to ask for an identity, and nobody has stopped it. -/
structure Ready {m : Type → Type} (view : View m κ α) (identity : κ) (previous : Option α)
    (mount : Mount κ α) : Prop where
  what : mount.what = view.what
  refresh : mount.refresh = view.refresh
  up : mount.container.tornDown = false
  newest : mount.tasks[mount.tasks.length - 1]? =
    some ⟨identity, false, .starting mount.container.ticket previous⟩

/-- The mount after its newest task has asked and got this. -/
def answered [DecidableEq κ] (mount : Mount κ α) (came : Option (Except ClientError α)) :
    Mount κ α :=
  let newest := mount.tasks.length - 1
  ((mount.step (.fetch newest)).1.step (.settle newest came)).1

section Round

variable {m : Type → Type} {view : View m κ α} {identity : κ} {previous : Option α}
  {mount : Mount κ α}

theorem ready_mount (view : View m κ α) (identity : κ) :
    Ready view identity none (view.mount identity) where
  what := rfl
  refresh := rfl
  up := rfl
  newest := rfl

variable [DecidableEq κ]

/-- A round asks by way of the view and lets the newest task take what comes. -/
theorem load_of_ready [Monad m] (ready : Ready view identity previous mount) :
    view.load mount = (do
      let came ← (view.fetch identity previous).await
      return answered mount came) := by
  unfold load
  simp only [ready.newest]
  rfl

/-- The mount after its newest task has taken a result: it is shown, and the task ends or
sleeps with the last data that it got. -/
theorem answered_eq (ready : Ready view identity previous mount)
    (result : Except ClientError α) :
    answered mount (some result) =
      ((mount.setPhase (mount.tasks.length - 1)
          (.fetching mount.container.ticket previous)).withContainer
        { mount.container with state := mount.outcomeState result }).setPhase
          (mount.tasks.length - 1)
          (mount.followUp (mount.tasks.length - 1) identity previous result).1 := by
  have asked := Mount.getElem?_setPhase_self ready.newest
    (.fetching mount.container.ticket previous)
  unfold answered
  simp only [Mount.step, ready.newest, asked]
  exact congrArg Prod.fst
    (Mount.settle_live (mount.setPhase _ _) _ ⟨identity, false, _⟩ rfl ready.up rfl result)

/-- After a round the result is shown. -/
theorem published_answered (ready : Ready view identity previous mount)
    (result : Except ClientError α) :
    (answered mount (some result)).published =
      .ofOutcome (result.mapError fun error => error.notice view.what) := by
  rw [answered_eq ready, ← ready.what]
  rfl

/-- A mount that is about to ask does not sleep. -/
theorem wake_of_ready (ready : Ready view identity previous mount) : wake mount = mount := by
  unfold wake
  simp only [Mount.step, ready.newest]

/-- A mount whose newest task sleeps asks again when it wakes. -/
theorem ready_of_sleeping (what : mount.what = view.what) (refresh : mount.refresh = view.refresh)
    (up : mount.container.tornDown = false)
    (newest : mount.tasks[mount.tasks.length - 1]? = some ⟨identity, false, .sleeping previous⟩) :
    Ready view identity previous (wake mount) := by
  have woken : wake mount = (mount.withContainer (mount.container.request identity)).setPhase
      (mount.tasks.length - 1)
      (.starting (mount.container.request identity).ticket previous) := by
    unfold wake
    simp only [Mount.step, newest, Mount.wake_live mount _ ⟨identity, false, _⟩ rfl up]
  rw [woken]
  refine ⟨what, refresh, up, ?_⟩
  rw [Mount.length_setPhase]
  exact Mount.getElem?_setPhase_self newest _

/-- After a round that was not the last and the sleep behind it, the mount is about to ask
again, told the last data that came. -/
theorem ready_wake (ready : Ready view identity previous mount) {result : Except ClientError α}
    {period : Nat} (again : view.refresh.pause identity result.toOption = some period) :
    Ready view identity (result.toOption <|> previous) (wake (answered mount (some result))) := by
  rw [← ready.refresh] at again
  have asleep : (mount.followUp (mount.tasks.length - 1) identity previous result).1 =
      .sleeping (result.toOption <|> previous) := by
    simp [Mount.followUp, again]
  rw [answered_eq ready, asleep]
  apply ready_of_sleeping
  · exact ready.what
  · exact ready.refresh
  · exact ready.up
  · rw [Mount.length_setPhase]
    have found := Mount.getElem?_setPhase_self (Mount.getElem?_setPhase_self ready.newest
      (.fetching mount.container.ticket previous)) (.sleeping (result.toOption <|> previous))
    simpa [Mount.withContainer, Mount.setPhase] using found

omit [DecidableEq κ] in
/-- A restarted mount is about to ask, told nothing. -/
theorem ready_restart (shows : mount.identity = identity) (what : mount.what = view.what)
    (refresh : mount.refresh = view.refresh) (up : mount.container.tornDown = false) :
    Ready view identity none mount.restart.1 where
  what := what
  refresh := refresh
  up := up
  newest := by
    subst shows
    simp only [Mount.tasks_restart, List.length_append, List.length_singleton, Nat.add_sub_cancel,
      List.getElem?_concat_length]
    rfl

/-- After a round the owner may choose something else, and that is asked for then. -/
theorem ready_setIdentity (ready : Ready view identity previous mount)
    (opened : mount.closed = false) {other : κ} (differs : other ≠ mount.identity)
    (result : Except ClientError α) :
    Ready view other none ((answered mount (some result)).step (.setIdentity other)).1 := by
  rw [answered_eq ready, Mount.step_setIdentity (by exact opened) (by exact differs)]
  exact ready_restart rfl ready.what ready.refresh ready.up

end Round

/-! ## Many rounds -/

section Rounds

variable {σ : Type} [DecidableEq κ] (view : View (StateM σ) κ α) {identity : κ}
  {previous : Option α} {mount : Mount κ α}

/-- A mount after a round in each of these worlds, about to ask again. Between two rounds
the world may change in any way. -/
def polled (mount : Mount κ α) (worlds : List σ) : Mount κ α :=
  worlds.foldl (fun mount world => wake (view.load mount world).1) mount

/-- The last data that came, when a task that is told `previous` gets `answer`. -/
def known (answer : Option α → σ → Except ClientError α) (worlds : List σ) : Option α :=
  worlds.foldl (fun previous world => (answer previous world).toOption <|> previous) none

variable {view}

theorem fst_load (ready : Ready view identity previous mount) {world : σ}
    {result : Except ClientError α}
    (came : ((view.fetch identity previous).await world).1 = some result) :
    (view.load mount world).1 = answered mount (some result) := by
  rw [load_of_ready ready, ← came]
  rfl

variable {answer : Option α → σ → Except ClientError α}
  (answers : ∀ previous world,
    ((view.fetch identity previous).await world).1 = some (answer previous world))
include answers

theorem load_eq_answered (ready : Ready view identity previous mount) (world : σ) :
    (view.load mount world).1 = answered mount (some (answer previous world)) :=
  fst_load ready (answers previous world)

/-- Rounds that are never the last keep the mount about to ask, told the last data. -/
theorem ready_polled (again : ∀ got, ∃ period, view.refresh.pause identity got = some period)
    (worlds : List σ) :
    Ready view identity (known answer worlds) (view.polled (view.mount identity) worlds) := by
  suffices general : ∀ previous mount, Ready view identity previous mount →
      Ready view identity
        (worlds.foldl (fun previous world => (answer previous world).toOption <|> previous)
          previous) (view.polled mount worlds) from
    general none _ (ready_mount view identity)
  induction worlds with
  | nil =>
    intro previous mount ready
    exact ready
  | cons world worlds ih =>
    intro previous mount ready
    obtain ⟨period, pause⟩ := again (answer previous world).toOption
    apply ih
    dsimp only
    rw [load_eq_answered answers ready]
    exact ready_wake ready pause

/-- A round shows what came for the last data. -/
theorem published_polled (again : ∀ got, ∃ period, view.refresh.pause identity got = some period)
    (worlds : List σ) (now : σ) :
    (view.load (view.polled (view.mount identity) worlds) now).1.published =
      .ofOutcome ((answer (known answer worlds) now).mapError fun error =>
        error.notice view.what) := by
  have ready := ready_polled answers again worlds
  rw [load_eq_answered answers ready, published_answered ready]

end Rounds

end RunBoard.View
