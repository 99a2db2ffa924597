import Mathlib.Logic.Relation
import RunBoard.Proofs.Load.Polling
import RunBoard.View.Basic

/-!
# A mounted view and its requests under way

A request is answered in the world of some moment, and the answer reaches its task later, when
the task may have been stopped. Whatever holds of every answer, also of one that builds on data
which the task got before, holds of all that the tasks know, of all answers that are on their
way, and of what is shown.
-/

namespace RunBoard

open Load

variable {κ α : Type}

/-! ## Data in a turn of a mount -/

namespace Load.Mount

theorem known_of_setPhase {mount : Mount κ α} {turned index : Nat} {phase : Phase α}
    {task : LoadTask κ α} {data : α}
    (found : (mount.setPhase turned phase).tasks[index]? = some task)
    (known : task.phase.previous? = some (some data)) :
    ∃ old, mount.tasks[index]? = some old ∧ task.identity = old.identity ∧
      (old.phase.previous? = some (some data) ∨
        turned = index ∧ phase.previous? = some (some data)) := by
  obtain ⟨old, before, same, _, turns⟩ := task_of_setPhase found
  refine ⟨old, before, same, ?_⟩
  rw [turns] at known
  split at known
  case isTrue here => exact .inr ⟨here, known⟩
  case isFalse => exact .inl known

theorem exists_task_setPhase {mount : Mount κ α} {index : Nat} {task : LoadTask κ α}
    (found : mount.tasks[index]? = some task) (turned : Nat) (phase : Phase α) :
    ∃ later, (mount.setPhase turned phase).tasks[index]? = some later ∧
      later.identity = task.identity := by
  by_cases here : turned = index
  · subst here
    exact ⟨_, getElem?_setPhase_self found phase, rfl⟩
  · exact ⟨task, (getElem?_setPhase_of_ne here phase).trans found, rfl⟩

theorem exists_task_cancelNewest {mount : Mount κ α} {index : Nat} {task : LoadTask κ α}
    (found : mount.tasks[index]? = some task) :
    ∃ later, mount.cancelNewest.tasks[index]? = some later ∧ later.identity = task.identity := by
  rw [cancelNewest, List.getElem?_modify, found]
  refine ⟨_, rfl, ?_⟩
  dsimp only
  split <;> rfl

namespace Turn

variable {mount next : Mount κ α} {event : MountEvent κ α} {effects : List (MountEffect κ α)}
  {index : Nat} {task : LoadTask κ α} {data : α}

/-- Data that a task knows was known to it before, or it has just been taken and the task will
ask again. -/
theorem of_previous (turn : Turn mount event next effects)
    (found : next.tasks[index]? = some task) (known : task.phase.previous? = some (some data)) :
    ∃ old, mount.tasks[index]? = some old ∧ task.identity = old.identity ∧
      (old.phase.previous? = some (some data) ∨
        event = .settle index (some (.ok data)) ∧
          ∃ period, mount.refresh.pause task.identity (some data) = some period) := by
  cases turn with
  | rest => exact ⟨task, found, rfl, .inl known⟩
  | restart identity asked opened =>
    rcases task_of_restart found with ⟨_, _, _, fresh⟩ | ⟨old, before, same, phase, _⟩
    · rw [fresh] at known
      cases known
    · exact ⟨old, before, same, .inl (phase ▸ known)⟩
  | unmount opened | drop opened =>
    obtain ⟨old, before, same, phase, _⟩ := task_of_cancelNewest found
    exact ⟨old, before, same, .inl (phase ▸ known)⟩
  | @fetch asker first ticket previous began starts =>
    obtain ⟨old, before, same, knew | ⟨rfl, told⟩⟩ := known_of_setPhase found known
    · exact ⟨old, before, same, .inl knew⟩
    · obtain rfl : first = old := Option.some.inj (began.symm.trans before)
      exact ⟨first, before, same, .inl (by rw [starts]; exact told)⟩
  | finish other =>
    obtain ⟨old, before, same, knew | ⟨rfl, told⟩⟩ := known_of_setPhase found known
    · exact ⟨old, before, same, .inl knew⟩
    · cases told
  | @take taker first ticket previous result began waits live =>
    obtain ⟨old, before, same, knew | ⟨rfl, told⟩⟩ := known_of_setPhase found known
    · exact ⟨old, before, same, .inl knew⟩
    · obtain rfl : first = old := Option.some.inj (began.symm.trans before)
      refine ⟨first, before, same, ?_⟩
      -- A task that ends forgets what it got; one that sleeps keeps the last data.
      rw [followUp] at told
      cases pause : mount.refresh.pause first.identity result.toOption with
      | none =>
        rw [pause] at told
        cases told
      | some period =>
        rw [pause] at told
        cases result with
        | ok got =>
          obtain rfl : got = data := Option.some.inj (Option.some.inj told)
          exact .inr ⟨rfl, period, by rw [same]; exact pause⟩
        | error error =>
          left
          rw [waits]
          exact told
  | @wake sleeper first previous began sleeps live up =>
    obtain ⟨old, before, same, knew | ⟨rfl, told⟩⟩ := known_of_setPhase found known
    · exact ⟨old, before, same, .inl knew⟩
    · obtain rfl : first = old := Option.some.inj (began.symm.trans before)
      exact ⟨first, before, same, .inl (by rw [sleeps]; exact told)⟩

/-- Data that is shown was shown before, or the task that loads what the mount shows has just
taken it. -/
theorem of_loaded (turn : Turn mount event next effects) (sound : Sound mount)
    (shown : next.published = .loaded data) :
    next.identity = mount.identity ∧ (mount.published = .loaded data ∨
      ∃ index task, event = .settle index (some (.ok data)) ∧ mount.tasks[index]? = some task ∧
        task.identity = mount.identity) := by
  cases turn with
  | rest | finish | fetch | unmount | drop => exact ⟨rfl, .inl shown⟩
  | restart identity asked opened =>
    cases (Container.state_request (sound.up opened) identity).symm.trans shown
  | @take index task ticket previous result found waits live =>
    refine ⟨rfl, .inr ⟨index, task, ?_, found, (sound.live found live).2.1⟩⟩
    cases result with
    | ok got =>
      cases shown
      rfl
    | error error => cases shown
  | @wake index task previous found sleeps live up =>
    cases (Container.state_request up task.identity).symm.trans shown

/-- A task was there before, with the same identity, or it loads what the mount shows now. -/
theorem of_task (turn : Turn mount event next effects) (found : next.tasks[index]? = some task) :
    (∃ old, mount.tasks[index]? = some old ∧ task.identity = old.identity) ∨
      task.identity = next.identity := by
  cases turn with
  | rest => exact .inl ⟨task, found, rfl⟩
  | restart identity asked opened =>
    rcases task_of_restart found with ⟨_, same, _, _⟩ | ⟨old, before, same, _, _⟩
    · exact .inr same
    · exact .inl ⟨old, before, same⟩
  | unmount opened | drop opened =>
    obtain ⟨old, before, same, _, _⟩ := task_of_cancelNewest found
    exact .inl ⟨old, before, same⟩
  | fetch | finish | take | wake =>
    obtain ⟨old, before, same, _, _⟩ := task_of_setPhase found
    exact .inl ⟨old, before, same⟩

/-- The tasks leave it to the owner what the mount shows, and whether it is still there. -/
theorem of_isTask (turn : Turn mount event next effects) (isTask : event.task?.isSome = true) :
    next.identity = mount.identity ∧ next.closed = mount.closed := by
  cases turn with
  | rest | finish | fetch | take | wake => exact ⟨rfl, rfl⟩
  | restart identity asked opened =>
    rcases asked with ⟨rfl, _⟩ | ⟨rfl, _⟩
    · cases isTask
    · cases isTask
  | unmount opened | drop opened => cases isTask

/-- No task disappears, and none changes its identity. -/
theorem keeps_task (turn : Turn mount event next effects)
    (found : mount.tasks[index]? = some task) :
    ∃ later, next.tasks[index]? = some later ∧ later.identity = task.identity := by
  cases turn with
  | rest => exact ⟨task, found, rfl⟩
  | restart identity asked opened =>
    obtain ⟨later, kept, same⟩ := exists_task_cancelNewest found
    refine ⟨later, ?_, same⟩
    rw [tasks_restart]
    exact List.getElem?_append_left (List.getElem?_eq_some_iff.1 kept).1 ▸ kept
  | unmount opened | drop opened => exact exists_task_cancelNewest found
  | fetch | finish | take | wake => exact exists_task_setPhase found _ _

end Turn

end Load.Mount

/-! ## Requests under way -/

/-- A mounted view with the answers that are on their way to its tasks. -/
structure Exchange (κ α : Type) where
  mount : Mount κ α
  replies : Nat → Option (Option (Except ClientError α))

namespace Exchange

inductive Event where
  /-- A task asks. -/
  | ask (task : Nat)
  /-- What a task has asked for is answered. -/
  | answer (task : Nat)
  /-- An answer reaches the task that has asked. -/
  | deliver (task : Nat)
  /-- The sleep of a task is over. -/
  | wake (task : Nat)
  /-- A task notices that it has been stopped. -/
  | notice (task : Nat)
  deriving DecidableEq, Repr

def start {m : Type → Type} [DecidableEq κ] (view : View m κ α) (identity : κ) : Exchange κ α :=
  ⟨view.mount identity, fun _ => none⟩

variable [DecidableEq κ]

/-- A turn of the mount alone. -/
def turn (exchange : Exchange κ α) (event : MountEvent κ α) : Exchange κ α :=
  { exchange with mount := (exchange.mount.step event).1 }

/-- One event, with what it makes of the world. A request is answered once. -/
def step {σ : Type} (view : View (StateM σ) κ α) (exchange : Exchange κ α) (world : σ) :
    Event → Exchange κ α × σ
  | .ask task => (exchange.turn (.fetch task), world)
  | .answer task =>
      match exchange.mount.tasks[task]?, exchange.replies task with
      | some ⟨identity, _, .fetching _ previous⟩, none =>
          let came := (view.fetch identity previous).await world
          ({ exchange with replies := Function.update exchange.replies task (some came.1) }, came.2)
      | _, _ => (exchange, world)
  | .deliver task =>
      match exchange.replies task with
      | some came =>
          ({ mount := (exchange.mount.step (.settle task came)).1
             replies := Function.update exchange.replies task none }, world)
      | none => (exchange, world)
  | .wake task => (exchange.turn (.wake task), world)
  | .notice task => (exchange.turn (.notice task), world)

/-- An event changes the mount by a turn of one of its tasks, if at all. -/
theorem mount_step {σ : Type} (view : View (StateM σ) κ α) (exchange : Exchange κ α) (world : σ)
    (event : Event) :
    (exchange.step view world event).1.mount = exchange.mount ∨
      ∃ own : MountEvent κ α, own.task?.isSome = true ∧
        (exchange.step view world event).1.mount = (exchange.mount.step own).1 := by
  cases event with
  | ask task => exact .inr ⟨.fetch task, rfl, rfl⟩
  | wake task => exact .inr ⟨.wake task, rfl, rfl⟩
  | notice task => exact .inr ⟨.notice task, rfl, rfl⟩
  | answer task =>
    left
    simp only [step]
    split <;> rfl
  | deliver task =>
    simp only [step]
    cases exchange.replies task with
    | none => exact .inl rfl
    | some came => exact .inr ⟨.settle task came, rfl, rfl⟩

/-- All that has come of answers has a property: what the tasks know, which then ask again, what
is on its way to them, and what is shown. -/
structure Holds (property : κ → α → Prop) (exchange : Exchange κ α) : Prop where
  sound : Mount.Sound exchange.mount
  known {index : Nat} {task : LoadTask κ α} {data : α}
    (found : exchange.mount.tasks[index]? = some task)
    (told : task.phase.previous? = some (some data)) :
    property task.identity data ∧
      ∃ period, exchange.mount.refresh.pause task.identity (some data) = some period
  coming {index : Nat} {data : α} (reply : exchange.replies index = some (some (.ok data))) :
    ∃ task, exchange.mount.tasks[index]? = some task ∧ property task.identity data
  shown {data : α} (loaded : exchange.mount.published = .loaded data) :
    property exchange.mount.identity data

namespace Holds

variable {property stronger : κ → α → Prop} {exchange : Exchange κ α}

/-- Nothing has come of answers yet. -/
theorem start {m : Type → Type} (view : View m κ α) (identity : κ) :
    Holds property (Exchange.start view identity) where
  sound := Mount.sound_start identity view.what view.refresh
  known found told := by
    rcases Mount.task_of_restart found with ⟨_, _, _, phase⟩ | ⟨old, before, _⟩
    · rw [phase] at told
      cases told
    · cases before
  coming reply := by cases reply
  shown loaded := by cases loaded

omit [DecidableEq κ] in
theorem imp (holds : Holds stronger exchange)
    (weaker : ∀ identity data, stronger identity data → property identity data) :
    Holds property exchange where
  sound := holds.sound
  known found told := ⟨weaker _ _ (holds.known found told).1, (holds.known found told).2⟩
  coming reply := by
    obtain ⟨task, found, has⟩ := holds.coming reply
    exact ⟨task, found, weaker _ _ has⟩
  shown loaded := weaker _ _ (holds.shown loaded)

/-- A turn of the mount that takes what has the property, and drops some replies. -/
theorem take (holds : Holds property exchange) {event : MountEvent κ α}
    (took : ∀ index data, event = .settle index (some (.ok data)) →
      ∃ task, exchange.mount.tasks[index]? = some task ∧ property task.identity data)
    {replies : Nat → Option (Option (Except ClientError α))}
    (fewer : ∀ index reply, replies index = some reply → exchange.replies index = some reply) :
    Holds property ⟨(exchange.mount.step event).1, replies⟩ where
  sound := (Mount.turn_step exchange.mount event).sound holds.sound
  known {index task data} found told := by
    have turned := Mount.turn_step exchange.mount event
    obtain ⟨old, before, same, knew | ⟨taken, again⟩⟩ := turned.of_previous found told
    · rw [same, turned.refresh]
      exact holds.known before knew
    · obtain ⟨first, began, has⟩ := took index data taken
      obtain rfl : old = first := Option.some.inj (before.symm.trans began)
      rw [turned.refresh]
      exact ⟨by rw [same]; exact has, again⟩
  coming {index data} reply := by
    obtain ⟨task, found, has⟩ := holds.coming (fewer index _ reply)
    obtain ⟨later, kept, same⟩ := (Mount.turn_step exchange.mount event).keeps_task found
    exact ⟨later, kept, by rwa [same]⟩
  shown {data} loaded := by
    obtain ⟨same, before | ⟨index, task, taken, found, loads⟩⟩ :=
      (Mount.turn_step exchange.mount event).of_loaded holds.sound loaded
    · rw [same]
      exact holds.shown before
    · obtain ⟨first, began, has⟩ := took index data taken
      obtain rfl : task = first := Option.some.inj (found.symm.trans began)
      rwa [same, ← loads]

/-- A turn of the mount that takes nothing. -/
theorem turn (holds : Holds property exchange) {event : MountEvent κ α}
    (other : ∀ index came, event ≠ .settle index came) : Holds property (exchange.turn event) := by
  apply holds.take
  · intro index data taken
    exact (other index _ taken).elim
  · intro index reply waiting
    exact waiting

/-- A property that every answer has, also one that builds on data with that property, is kept
by every event. -/
theorem step {σ : Type} {view : View (StateM σ) κ α} {world : σ} (holds : Holds property exchange)
    (event : Event)
    (answered : ∀ task loading ticket previous data, event = .answer task →
      exchange.mount.tasks[task]? = some loading → loading.phase = .fetching ticket previous →
      exchange.replies task = none →
      (∀ known ∈ previous, property loading.identity known ∧
        ∃ period, exchange.mount.refresh.pause loading.identity (some known) = some period) →
      ((view.fetch loading.identity previous).await world).1 = some (.ok data) →
      property loading.identity data) :
    Holds property (exchange.step view world event).1 := by
  cases event with
  | ask task => exact holds.turn fun _ _ same => by cases same
  | wake task => exact holds.turn fun _ _ same => by cases same
  | notice task => exact holds.turn fun _ _ same => by cases same
  | answer task =>
    simp only [Exchange.step]
    split
    case h_2 => exact holds
    case h_1 identity cancelled ticket previous found free =>
      refine { holds with coming := ?_ }
      intro index data reply
      dsimp only at reply
      by_cases here : index = task
      · subst here
        rw [Function.update_self] at reply
        refine ⟨_, found, ?_⟩
        apply answered index _ ticket previous data rfl found rfl free ?_ (Option.some.inj reply)
        intro known told
        exact holds.known found (congrArg some told)
      · rw [Function.update_of_ne here] at reply
        exact holds.coming reply
  | deliver task =>
    simp only [Exchange.step]
    cases came : exchange.replies task with
    | none => exact holds
    | some result =>
      apply holds.take
      · intro index data took
        cases took
        exact holds.coming came
      · intro index reply waiting
        by_cases here : index = task
        · subst here
          rw [Function.update_self] at waiting
          cases waiting
        · rwa [Function.update_of_ne here] at waiting

end Holds

/-! ## Loading -/

/-- A turn of an exchange, after which the world is as it may be. -/
def Turns {σ : Type} (view : View (StateM σ) κ α) (fine : σ → σ → Prop)
    (before after : Exchange κ α × σ) : Prop :=
  ∃ event, before.1.step view before.2 event = after ∧ fine before.2 after.2

/-- Loading is asking, being answered and taking the answer. -/
theorem turns_load {σ : Type} {view : View (StateM σ) κ α} {fine : σ → σ → Prop}
    (refl : ∀ world, fine world world)
    (asks : ∀ identity previous world, fine world ((view.fetch identity previous).await world).2)
    (mount : Mount κ α) (world : σ) :
    Relation.ReflTransGen (Turns view fine) (⟨mount, fun _ => none⟩, world)
      (⟨(view.load mount world).1, fun _ => none⟩, (view.load mount world).2) := by
  cases found : mount.tasks[mount.tasks.length - 1]? with
  | none =>
    simp only [View.load, found]
    exact .refl
  | some task =>
    obtain ⟨identity, cancelled, phase⟩ := task
    cases phase with
    | fetching | sleeping | ended =>
      simp only [View.load, found]
      exact .refl
    | starting ticket previous =>
      have asked := Mount.getElem?_setPhase_self found (.fetching ticket previous)
      have stepped : mount.step (.fetch (mount.tasks.length - 1)) =
          (mount.setPhase (mount.tasks.length - 1) (.fetching ticket previous),
            [.asked (mount.tasks.length - 1) identity previous]) := by
        simp only [Mount.step, found]
      have ask : Turns view fine (⟨mount, fun _ => none⟩, world)
          (⟨(mount.step (.fetch (mount.tasks.length - 1))).1, fun _ => none⟩, world) :=
        ⟨.ask _, rfl, refl world⟩
      have answer : Turns view fine
          (⟨(mount.step (.fetch (mount.tasks.length - 1))).1, fun _ => none⟩, world)
          (⟨(mount.step (.fetch (mount.tasks.length - 1))).1,
            Function.update (fun _ => none) (mount.tasks.length - 1)
              (some ((view.fetch identity previous).await world).1)⟩,
            ((view.fetch identity previous).await world).2) := by
        refine ⟨.answer (mount.tasks.length - 1), ?_, asks identity previous world⟩
        rw [stepped]
        simp only [Exchange.step, asked]
      simp only [View.load, found]
      refine ((Relation.ReflTransGen.single ask).tail answer).tail ?_
      refine ⟨.deliver (mount.tasks.length - 1), ?_, refl _⟩
      simp only [Exchange.step, Function.update_self, Function.update_idem, Function.update_eq_self]
      rfl

end Exchange

end RunBoard
