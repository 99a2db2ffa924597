import Mathlib.Data.List.Induction
import RunBoard.Proofs.Load.Polling

/-!
# What a superseded task still asks for

A call of the owner cancels the task that was loading. A task looks whether it has been cancelled
when an answer comes and when its sleep is over, but not when it makes the request that its
container has given it a ticket for. So a task that is cancelled with a request due makes that
request, when it gets its turn, and nothing else; a task that is cancelled with none due is silent
for good. Before its first turn a task has a request due.
-/

namespace RunBoard.Load

variable {κ α : Type}

/-- What task `index` asks for in an effect: the identity, and the data that it had. -/
def MountEffect.request? (index : Nat) : MountEffect κ α → Option (κ × Option α)
  | .asked task identity previous => if task = index then some (identity, previous) else none
  | _ => none

/-- The request that a task is about to make. -/
def LoadTask.due? (task : LoadTask κ α) : Option (κ × Option α) :=
  match task.phase with
  | .starting _ previous => some (task.identity, previous)
  | _ => none

namespace Mount

/-- What task `index` asks for in these effects, in order. -/
def requests (index : Nat) (effects : List (MountEffect κ α)) : List (κ × Option α) :=
  effects.filterMap (MountEffect.request? index)

theorem requests_append (index : Nat) (first second : List (MountEffect κ α)) :
    requests index (first ++ second) = requests index first ++ requests index second :=
  List.filterMap_append

/-! ## One turn of one task -/

/-- What a turn does to the request that a task has due, and what the task asks for. It asks for
what was due and for nothing else, and only a task that has not been cancelled comes to have
another request due. -/
inductive Goes (index : Nat) (event : MountEvent κ α) (task : LoadTask κ α) :
    Option (κ × Option α) → List (κ × Option α) → Prop where
  | stay (quiet : event ≠ .fetch index) : Goes index event task task.due? []
  | rest (idle : task.due? = none) : Goes index event task none []
  | ask {request : κ × Option α} (turn : event = .fetch index) (due : task.due? = some request) :
      Goes index event task none [request]
  | wake (request : κ × Option α) (live : task.cancelled = false) (idle : task.due? = none) :
      Goes index event task (some request) []

/-- A turn of task `index`: nothing happens, or the task turns to something else. -/
inductive OwnTurn (mount : Mount κ α) (index : Nat) (event : MountEvent κ α) :
    Mount κ α × List (MountEffect κ α) → Prop where
  | idle (goes : ∀ task, mount.tasks[index]? = some task → Goes index event task task.due? []) :
      OwnTurn mount index event (mount, [])
  | turn {next : Mount κ α} {effects : List (MountEffect κ α)} {task : LoadTask κ α}
      (found : mount.tasks[index]? = some task) (phase : Phase α)
      (turned : next.tasks = (mount.setPhase index phase).tasks)
      (goes : Goes index event task (LoadTask.due? { task with phase := phase })
        (requests index effects))
      (alone : ∀ other, index ≠ other → requests other effects = []) :
      OwnTurn mount index event (next, effects)

theorem ownTurn_settle {mount : Mount κ α} {index : Nat} {task : LoadTask κ α} {ticket : Ticket}
    {previous : Option α} (found : mount.tasks[index]? = some task)
    (waits : task.phase = .fetching ticket previous) (event : MountEvent κ α)
    (result : Except ClientError α) :
    OwnTurn mount index event (mount.settle index task ticket previous result) := by
  have idle : task.due? = none := by rw [LoadTask.due?, waits]
  unfold settle
  split
  · exact .turn found .ended rfl (.rest idle) fun _ _ => rfl
  · split
    · dsimp only [publish]
      split
      · exact .turn found .ended rfl (.rest idle) fun _ _ => rfl
      · exact .turn found (.sleeping _) rfl (.rest idle) fun _ _ => rfl
    · exact .turn found .ended rfl (.rest idle) fun _ _ => rfl

theorem ownTurn_wake {mount : Mount κ α} {index : Nat} {task : LoadTask κ α} {previous : Option α}
    (found : mount.tasks[index]? = some task) (sleeps : task.phase = .sleeping previous)
    (event : MountEvent κ α) : OwnTurn mount index event (mount.wake index task previous) := by
  have idle : task.due? = none := by rw [LoadTask.due?, sleeps]
  unfold wake
  split
  · exact .turn found .ended rfl (.rest idle) fun _ _ => rfl
  · next awake =>
    simp only [Bool.or_eq_true, not_or, Bool.not_eq_true] at awake
    exact .turn found (.starting _ previous) rfl (.wake _ awake.1 idle) fun _ _ => rfl

/-- A turn that is not open to its task leaves everything as it was. -/
theorem OwnTurn.of_idle {mount : Mount κ α} {index : Nat} {event : MountEvent κ α}
    {task : LoadTask κ α} (found : mount.tasks[index]? = some task)
    (goes : Goes index event task task.due? []) : OwnTurn mount index event (mount, []) :=
  .idle fun other present => by
    rw [found] at present
    cases present
    exact goes

variable [DecidableEq κ]

theorem ownTurn_step (mount : Mount κ α) {event : MountEvent κ α} {index : Nat}
    (turn : event.task? = some index) : OwnTurn mount index event (mount.step event) := by
  cases found : mount.tasks[index]? with
  | none =>
    have nothing : mount.step event = (mount, []) := by
      cases event <;> cases turn <;> simp only [step, found]
    rw [nothing]
    exact .idle fun task present => by rw [found] at present; cases present
  | some task =>
    obtain ⟨identity, cancelled, phase⟩ := task
    cases event with
    | setIdentity | reload | unmount | drop => cases turn
    | fetch =>
      cases turn
      cases phase with
      | starting ticket previous =>
        simp only [step, found]
        refine .turn found (.fetching ticket previous) rfl ?_ fun other differ => ?_
        · have due : LoadTask.due? (⟨identity, cancelled, .starting ticket previous⟩ :
              LoadTask κ α) = some (identity, previous) := rfl
          simpa [requests, MountEffect.request?, LoadTask.due?] using Goes.ask rfl due
        · simp [requests, MountEffect.request?, differ]
      | fetching | sleeping | ended =>
        simp only [step, found]
        exact .of_idle found (.rest rfl)
    | settle index outcome =>
      cases turn
      cases phase with
      | fetching ticket previous =>
        cases outcome with
        | none =>
          simp only [step, found]
          exact .turn found .ended rfl (.rest rfl) fun _ _ => rfl
        | some result =>
          simp only [step, found]
          exact ownTurn_settle found rfl _ result
      | starting | sleeping | ended =>
        simp only [step, found]
        exact .of_idle found (.stay (by simp))
    | wake =>
      cases turn
      cases phase with
      | sleeping previous =>
        simp only [step, found]
        exact ownTurn_wake found rfl _
      | starting | fetching | ended =>
        simp only [step, found]
        exact .of_idle found (.stay (by simp))
    | notice =>
      cases turn
      simp only [step, found]
      split
      · exact .turn found .ended rfl (.rest rfl) fun _ _ => rfl
      · exact .turn found .ended rfl (.rest rfl) fun _ _ => rfl
      · exact .of_idle found (.stay (by simp))

/-! ## Any turn -/

omit [DecidableEq κ] in
theorem getElem?_cancelNewest {mount : Mount κ α} {index : Nat} {task : LoadTask κ α}
    (found : mount.tasks[index]? = some task) :
    ∃ after, mount.cancelNewest.tasks[index]? = some after ∧ after.due? = task.due? ∧
      (task.cancelled = true → after.cancelled = true) := by
  have kept : index < mount.cancelNewest.tasks.length := by
    rw [length_cancelNewest]
    exact (List.getElem?_eq_some_iff.1 found).1
  have present := List.getElem?_eq_getElem kept
  obtain ⟨old, before, same, phase, cancelled⟩ := task_of_cancelNewest present
  obtain rfl : task = old := Option.some.inj (found.symm.trans before)
  refine ⟨_, present, by simp only [LoadTask.due?, phase, same], fun stopped => ?_⟩
  rw [cancelled, stopped, Bool.true_or]

omit [DecidableEq κ] in
theorem getElem?_restart (mount : Mount κ α) {index : Nat} {task : LoadTask κ α}
    (found : mount.tasks[index]? = some task) :
    ∃ after, mount.restart.1.tasks[index]? = some after ∧ after.due? = task.due? ∧
      (task.cancelled = true → after.cancelled = true) := by
  obtain ⟨after, kept, due, cancelled⟩ := getElem?_cancelNewest found
  refine ⟨after, ?_, due, cancelled⟩
  rw [tasks_restart, List.getElem?_append_left (List.getElem?_eq_some_iff.1 kept).1]
  exact kept

/-- The owner's calls ask for nothing and leave every task what it has due. -/
theorem owner_step {mount : Mount κ α} {event : MountEvent κ α} (owner : event.task? = none)
    {index : Nat} {task : LoadTask κ α} (found : mount.tasks[index]? = some task) :
    (∃ after, (mount.step event).1.tasks[index]? = some after ∧ after.due? = task.due? ∧
      (task.cancelled = true → after.cancelled = true)) ∧
    requests index (mount.step event).2 = [] := by
  cases event with
  | fetch | settle | wake | notice => cases owner
  | setIdentity identity =>
    simp only [step]
    split
    · exact ⟨⟨task, found, rfl, id⟩, rfl⟩
    · exact ⟨getElem?_restart { mount with identity := identity } found, rfl⟩
  | reload =>
    simp only [step]
    split
    · exact ⟨⟨task, found, rfl, id⟩, rfl⟩
    · exact ⟨getElem?_restart mount found, rfl⟩
  | unmount | drop =>
    simp only [step]
    split
    · exact ⟨⟨task, found, rfl, id⟩, rfl⟩
    · exact ⟨getElem?_cancelNewest found, rfl⟩

/-- What any turn does to any one task. -/
theorem goes_step {mount : Mount κ α} (event : MountEvent κ α) {index : Nat}
    {task : LoadTask κ α} (found : mount.tasks[index]? = some task) :
    ∃ after, (mount.step event).1.tasks[index]? = some after ∧
      (task.cancelled = true → after.cancelled = true) ∧
      Goes index event task after.due? (requests index (mount.step event).2) := by
  cases acting : event.task? with
  | none =>
    obtain ⟨⟨after, kept, due, cancelled⟩, silent⟩ := owner_step acting found
    refine ⟨after, kept, cancelled, ?_⟩
    rw [due, silent]
    exact .stay (by rintro rfl; cases acting)
  | some other =>
    have own := ownTurn_step mount acting
    generalize mount.step event = stepped at own
    by_cases same : other = index
    · subst same
      cases own with
      | idle goes => exact ⟨task, found, id, goes task found⟩
      | @turn next effects old present phase turned goes alone =>
        obtain rfl : task = old := Option.some.inj (found.symm.trans present)
        refine ⟨{ task with phase := phase }, ?_, id, goes⟩
        rw [turned]
        exact getElem?_setPhase_self found phase
    · have quiet : event ≠ .fetch index := by
        rintro rfl
        exact same (Option.some.inj acting).symm
      cases own with
      | idle goes => exact ⟨task, found, id, .stay quiet⟩
      | turn present phase turned goes alone =>
        refine ⟨task, ?_, id, ?_⟩
        · rw [turned]
          exact (getElem?_setPhase_of_ne same phase).trans found
        · rw [alone index same]
          exact .stay quiet

/-! ## Runs -/

/-- A task that has been cancelled makes the request that it has due, once it gets its turn, and
nothing else. -/
theorem requests_of_cancelled {mount : Mount κ α} {index : Nat} {task : LoadTask κ α}
    (found : mount.tasks[index]? = some task) (cancelled : task.cancelled = true)
    (later : List (MountEvent κ α)) :
    (task.due? = none → requests index (mount.run later).2 = []) ∧
    ∀ request, task.due? = some request →
      (.fetch index ∈ later → requests index (mount.run later).2 = [request]) ∧
      (.fetch index ∉ later → requests index (mount.run later).2 = []) := by
  induction later generalizing mount task with
  | nil => exact ⟨fun _ => rfl, fun request _ => ⟨nofun, fun _ => rfl⟩⟩
  | cons event rest ih =>
    obtain ⟨after, kept, stopped, goes⟩ := goes_step event found
    obtain ⟨silent, asks⟩ := ih kept (stopped cancelled)
    simp only [run, requests_append]
    generalize after.due? = due at goes silent asks
    generalize requests index (mount.step event).2 = asked at goes
    cases goes with
    | stay quiet =>
      constructor
      · intro idle
        exact silent idle
      · intro request due
        obtain ⟨turned, unturned⟩ := asks request due
        constructor
        · intro turn
          rcases List.mem_cons.1 turn with now | next
          · exact absurd now.symm quiet
          · exact turned next
        · intro noTurn
          exact unturned fun next => noTurn (List.mem_cons_of_mem _ next)
    | rest idle =>
      refine ⟨fun _ => silent rfl, fun request due => ?_⟩
      rw [idle] at due
      cases due
    | @ask made turn due =>
      subst turn
      rw [silent rfl, List.append_nil]
      refine ⟨fun idle => ?_, fun request same => ⟨fun _ => ?_, fun noTurn => ?_⟩⟩
      · rw [idle] at due
        cases due
      · rw [due] at same
        rw [Option.some.inj same]
      · exact absurd List.mem_cons_self noTurn
    | wake request live idle =>
      rw [cancelled] at live
      cases live

/-- A task that has just been made has a request due. -/
theorem due_of_new {mount : Mount κ α} {event : MountEvent κ α} {index : Nat}
    {task : LoadTask κ α} (absent : mount.tasks[index]? = none)
    (found : (mount.step event).1.tasks[index]? = some task) : task.due?.isSome = true := by
  have turn := turn_step mount event
  have fresh : ∀ old, mount.tasks[index]? ≠ some old := by simp [absent]
  generalize (mount.step event).1 = next at turn found
  generalize (mount.step event).2 = effects at turn
  cases turn with
  | rest => exact absurd found (fresh task)
  | restart identity asked opened =>
    rcases task_of_restart found with ⟨-, -, -, phase⟩ | ⟨other, before, -⟩
    · rw [LoadTask.due?, phase]
      rfl
    · exact absurd before (fresh other)
  | unmount | drop =>
    obtain ⟨other, before, -⟩ := task_of_cancelNewest found
    exact absurd before (fresh other)
  | fetch | finish | take | wake =>
    obtain ⟨other, before, -⟩ := task_of_setPhase found
    exact absurd before (fresh other)

/-- A task that has not asked yet has its first request due. -/
theorem due_of_unasked (identity : κ) (what : String) (refresh : Refresh κ α)
    (events : List (MountEvent κ α)) {index : Nat} {task : LoadTask κ α}
    (found : ((start identity what refresh).1.run events).1.tasks[index]? = some task)
    (unasked : requests index ((start identity what refresh).1.run events).2 = []) :
    task.due?.isSome = true := by
  induction events using List.reverseRecOn generalizing task with
  | nil =>
    rcases task_of_restart found with ⟨-, -, -, phase⟩ | ⟨old, before, -⟩
    · rw [LoadTask.due?, phase]
      rfl
    · cases before
  | append_singleton events event ih =>
    rw [run_concat] at found unasked
    rw [requests_append, List.append_eq_nil_iff] at unasked
    cases before : ((start identity what refresh).1.run events).1.tasks[index]? with
    | none => exact due_of_new before found
    | some old =>
      have waiting := ih before unasked.1
      obtain ⟨after, kept, -, goes⟩ := goes_step event before
      obtain rfl : after = task := Option.some.inj (kept.symm.trans found)
      generalize after.due? = due at goes ⊢
      rw [unasked.2] at goes
      cases goes with
      | stay quiet => exact waiting
      | rest idle =>
        rw [idle] at waiting
        cases waiting
      | wake request live idle => rfl

/-- Whether an event is a call of the owner that stops the task that has been loading. -/
def Supersedes (mount : Mount κ α) : MountEvent κ α → Prop
  | .setIdentity identity => mount.closed = false ∧ identity ≠ mount.identity
  | .reload | .unmount | .drop => mount.closed = false
  | _ => False

/-- After such a call every task that was there before has been cancelled. -/
theorem cancelled_of_supersedes {mount : Mount κ α} (sound : Sound mount) {call : MountEvent κ α}
    (supersedes : mount.Supersedes call) {index : Nat} {task after : LoadTask κ α}
    (found : mount.tasks[index]? = some task)
    (kept : (mount.step call).1.tasks[index]? = some after) : after.cancelled = true := by
  have inside : index < mount.tasks.length := (List.getElem?_eq_some_iff.1 found).1
  by_contra running
  obtain ⟨newest, -, opened⟩ := ((turn_step mount call).sound sound).live kept
    (eq_false_of_ne_true running)
  cases call with
  | fetch | settle | wake | notice => exact supersedes
  | setIdentity identity =>
    rw [step_setIdentity supersedes.1 supersedes.2, tasks_restart, List.length_append,
      length_cancelNewest] at newest
    simp only [List.length_singleton] at newest
    omega
  | reload =>
    rw [step_reload supersedes, tasks_restart, List.length_append, length_cancelNewest] at newest
    simp only [List.length_singleton] at newest
    omega
  | unmount | drop =>
    simp [step, show mount.closed = false from supersedes] at opened

/-- In every run, a call of the owner that supersedes the tasks there are cancels each of them.
From then on a task asks for what it had due at the call, when it gets its turn, and for nothing
else; one that had nothing due asks for nothing. What is due is a request for the identity that
the task was made for, and a task that had never asked by then has its first request due. -/
theorem superseded_task_asks_only_for_what_was_due (identity : κ) (what : String)
    (refresh : Refresh κ α) (events : List (MountEvent κ α)) (call : MountEvent κ α)
    (later : List (MountEvent κ α)) :
    let first := (start identity what refresh).1
    let mount := (first.run events).1
    mount.Supersedes call → ∀ index task, mount.tasks[index]? = some task →
      let next := (mount.step call).1
      let asked := requests index (next.run later).2
      (∃ after, next.tasks[index]? = some after ∧ after.cancelled = true) ∧
      (task.due? = none → asked = []) ∧
      (∀ request, task.due? = some request → request.1 = task.identity ∧
        (.fetch index ∈ later → asked = [request]) ∧ (.fetch index ∉ later → asked = [])) ∧
      (requests index (first.run events).2 = [] → task.due?.isSome = true) := by
  intro first mount supersedes index task found next asked
  have sound : Sound mount := sound_run (sound_start identity what refresh) events
  have owner : call.task? = none := by
    cases call with
    | setIdentity | reload | unmount | drop => rfl
    | fetch | settle | wake | notice => exact supersedes.elim
  obtain ⟨⟨after, kept, due, -⟩, -⟩ := owner_step owner found
  have cancelled := cancelled_of_supersedes sound supersedes found kept
  obtain ⟨silent, asks⟩ := requests_of_cancelled kept cancelled later
  rw [due] at silent asks
  refine ⟨⟨after, kept, cancelled⟩, silent, ?_, due_of_unasked identity what refresh events found⟩
  intro request waiting
  refine ⟨?_, asks request waiting⟩
  unfold LoadTask.due? at waiting
  split at waiting
  · cases waiting
    rfl
  · cases waiting

/-- The run that is shown is changed, and before the task for the new one has had a turn it is
asked for again. -/
def hurried : List (MountEvent Nat String) := [.fetch 0, .setIdentity 43]

/-- What the tasks do after that: the first one has its answer and would ask again, the second one
gets its first turn and another one. -/
def belated : List (MountEvent Nat String) :=
  [.settle 0 (some (.ok "run 42")), .fetch 1, .fetch 0, .fetch 2, .notice 1, .fetch 1]

/-- The task that had asked is silent after the reload; the one that had not asks once. -/
theorem hurried_tasks_ask_once :
    let first : Mount Nat String := (start 42 "run" .once).1
    let mount := (first.run hurried).1
    mount.Supersedes .reload ∧
      mount.tasks[0]? = some ⟨42, true, .fetching ⟨1⟩ none⟩ ∧
      requests 0 ((mount.step .reload).1.run belated).2 = [] ∧
      mount.tasks[1]? = some ⟨43, false, .starting ⟨2⟩ none⟩ ∧
      requests 1 ((mount.step .reload).1.run belated).2 = [(43, none)] := by
  intro first mount
  have supersedes : mount.Supersedes .reload := rfl
  have asked : mount.tasks[0]? = some ⟨42, true, .fetching ⟨1⟩ none⟩ := rfl
  have unasked : mount.tasks[1]? = some ⟨43, false, .starting ⟨2⟩ none⟩ := rfl
  have rule := superseded_task_asks_only_for_what_was_due 42 "run" (.once : Refresh Nat String)
    hurried .reload belated supersedes
  obtain ⟨-, silent, -⟩ := rule 0 _ asked
  obtain ⟨-, -, asks, -⟩ := rule 1 _ unasked
  exact ⟨supersedes, asked, silent rfl, unasked,
    (asks (43, none) rfl).2.1 (by simp [belated])⟩

/-- The run that is shown is changed before the first task has had a turn. That task has been
cancelled, and it still asks for the run that is no longer shown. -/
theorem superseded_task_still_asks :
    let mount := ((start 42 "run" (.once : Refresh Nat String)).1.step (.setIdentity 43)).1
    mount.identity = 43 ∧ mount.tasks[0]? = some ⟨42, true, .starting ⟨1⟩ none⟩ ∧
      (mount.step (.fetch 0)).2 = [.asked 0 42 none] :=
  ⟨rfl, rfl, rfl⟩

end Mount

end RunBoard.Load
