import Mathlib.Data.List.Induction
import RunBoard.Proofs.Load.Publication

/-!
# The rounds of a task

From a start, a new identity or a reload on, the newest task is the only one that changes what
others see. It asks, shows what comes, sleeps and asks again. Turns of older tasks may come in
between; they change nothing of it. What the task has shown and what it is told are functions
of the outcomes that it has taken, and so is whether it has stopped.
-/

namespace RunBoard.Load

variable {κ α : Type}

/-! ## Reading events, effects and phases -/

/-- The task that takes a turn. The turns of the owner are no task's. -/
def MountEvent.task? : MountEvent κ α → Option Nat
  | .fetch task | .settle task _ | .wake task | .notice task => some task
  | .setIdentity _ | .reload | .unmount | .drop => none

/-- What a task is told when it asks. -/
def MountEffect.told? (index : Nat) : MountEffect κ α → Option (Option α)
  | .asked task _ previous => if task = index then some previous else none
  | _ => none

namespace Phase

/-- The ticket of the request that the task has to make or waits for. -/
def ticket? : Phase α → Option Ticket
  | starting ticket _ | fetching ticket _ => some ticket
  | sleeping _ | ended => none

/-- What the task is told when it asks next, or when it asked last. -/
def previous? : Phase α → Option (Option α)
  | starting _ previous | fetching _ previous | sleeping previous => some previous
  | ended => none

def isFetching : Phase α → Bool
  | fetching _ _ => true
  | _ => false

end Phase

namespace Refresh

variable {refresh : Refresh κ α} {identity : κ}

/-- Whether a task has done its work with this outcome: with the first one when it is to ask
once, else with data that is final. -/
def stopsAfter (refresh : Refresh κ α) (identity : κ) (result : Except ClientError α) : Bool :=
  match refresh, result with
  | once, _ => true
  | every _ isFinal, .ok data => isFinal identity data
  | every _ _, .error _ => false

theorem pause_of_stopsAfter {result : Except ClientError α}
    (stops : refresh.stopsAfter identity result = true) :
    refresh.pause identity result.toOption = none := by
  cases refresh with
  | once => rfl
  | every period isFinal =>
    cases result with
    | ok data => exact if_pos stops
    | error error => cases stops

theorem exists_pause {result : Except ClientError α}
    (goesOn : refresh.stopsAfter identity result = false) :
    ∃ period, refresh.pause identity result.toOption = some period := by
  cases refresh with
  | once => cases goesOn
  | every period isFinal =>
    cases result with
    | ok data => exact ⟨period, if_neg (ne_true_of_eq_false goesOn)⟩
    | error error => exact ⟨period, rfl⟩

end Refresh

namespace Mount

/-! ## The task that drives -/

/-- Task `index` is the one that loads what the mount shows. The request that it has to make
or waits for is the newest one of the container. -/
structure Drives (mount : Mount κ α) (index : Nat) (identity : κ) (phase : Phase α) : Prop where
  sound : Sound mount
  found : mount.tasks[index]? = some ⟨identity, false, phase⟩
  current : ∀ ticket ∈ phase.ticket?, ticket = mount.container.ticket

/-- What a turn does to the task that drives: where it turns to, what it shows, what it is
told and what it takes. -/
inductive Move (mount : Mount κ α) (index : Nat) (identity : κ) :
    Phase α → Phase α → List (LoadState α) → List (Option α) → Option (Except ClientError α) → Prop
  | rest (phase : Phase α) : Move mount index identity phase phase [] [] none
  | ask (ticket : Ticket) (previous : Option α) :
      Move mount index identity (.starting ticket previous) (.fetching ticket previous) []
        [previous] none
  | take (ticket : Ticket) (previous : Option α) (result : Except ClientError α) :
      Move mount index identity (.fetching ticket previous)
        (mount.followUp index identity previous result).1 [mount.outcomeState result] []
        (some result)
  | wake (ticket : Ticket) (previous : Option α) :
      Move mount index identity (.sleeping previous) (.starting ticket previous) [.loading] [] none

/-- What a turn of a task that has been stopped comes to: the task turns to something else at
most, and it may still ask. -/
inductive Fades (mount : Mount κ α) (other : Nat) : Mount κ α × List (MountEffect κ α) → Prop
  | rest : Fades mount other (mount, [])
  | turn (phase : Phase α) : Fades mount other (mount.setPhase other phase, [])
  | ask (phase : Phase α) (identity : κ) (previous : Option α) :
      Fades mount other (mount.setPhase other phase, [.asked other identity previous])

/-- The outcome that task `index` takes in a turn. -/
def taken? (mount : Mount κ α) (index : Nat) :
    MountEvent κ α → Option (Except ClientError α)
  | .settle task (some result) =>
      match mount.tasks[index]? with
      | some ⟨_, _, .fetching _ _⟩ => if task = index then some result else none
      | _ => none
  | _ => none

theorem shown_followUp (mount : Mount κ α) (index : Nat) (identity : κ) (previous : Option α)
    (result : Except ClientError α) :
    (mount.followUp index identity previous result).2.filterMap MountEffect.shown? = [] := by
  rw [List.filterMap_eq_nil_iff]
  intro effect member
  obtain ⟨period, rfl⟩ := followUp_effects member
  rfl

theorem told_followUp (mount : Mount κ α) (index : Nat) (identity : κ) (previous : Option α)
    (result : Except ClientError α) :
    (mount.followUp index identity previous result).2.filterMap (MountEffect.told? index) = [] := by
  rw [List.filterMap_eq_nil_iff]
  intro effect member
  obtain ⟨period, rfl⟩ := followUp_effects member
  rfl

theorem followUp_of_stopsAfter {mount : Mount κ α} {identity : κ} {result : Except ClientError α}
    (stops : mount.refresh.stopsAfter identity result = true) (index : Nat) (previous : Option α) :
    (mount.followUp index identity previous result).1 = .ended := by
  unfold followUp
  rw [Refresh.pause_of_stopsAfter stops]

theorem followUp_of_goesOn {mount : Mount κ α} {identity : κ} {result : Except ClientError α}
    (goesOn : mount.refresh.stopsAfter identity result = false) (index : Nat)
    (previous : Option α) :
    (mount.followUp index identity previous result).1 =
      .sleeping (result.toOption <|> previous) := by
  obtain ⟨period, pause⟩ := Refresh.exists_pause goesOn
  unfold followUp
  rw [pause]

theorem ticket?_followUp (mount : Mount κ α) (index : Nat) (identity : κ) (previous : Option α)
    (result : Except ClientError α) :
    (mount.followUp index identity previous result).1.ticket? = none := by
  unfold followUp
  split <;> rfl

variable [DecidableEq κ]

omit [DecidableEq κ] in
theorem settle_cancelled (mount : Mount κ α) (index : Nat) {task : LoadTask κ α}
    (cancelled : task.cancelled = true) (ticket : Ticket) (previous : Option α)
    (result : Except ClientError α) :
    mount.settle index task ticket previous result = (mount.setPhase index .ended, []) := by
  unfold settle
  rw [if_pos cancelled]

omit [DecidableEq κ] in
theorem wake_cancelled (mount : Mount κ α) (index : Nat) {task : LoadTask κ α}
    (cancelled : task.cancelled = true) (previous : Option α) :
    mount.wake index task previous = (mount.setPhase index .ended, []) := by
  unfold wake
  rw [if_pos (by simp [cancelled])]

/-- A task that has been stopped shows nothing, whatever turn it takes. -/
theorem step_of_cancelled {mount : Mount κ α} {event : MountEvent κ α} {other : Nat}
    (turn : event.task? = some other)
    (cancelled : ∀ task, mount.tasks[other]? = some task → task.cancelled = true) :
    Fades mount other (mount.step event) := by
  cases event with
  | setIdentity | reload | unmount | drop => cases turn
  | fetch index =>
    cases turn
    simp only [step]
    split
    · exact .ask _ _ _
    · exact .rest
  | settle index outcome =>
    cases turn
    cases found : mount.tasks[other]? with
    | none => simpa only [step, found] using .rest
    | some task =>
      cases waits : task.phase with
      | fetching ticket previous =>
        cases outcome with
        | none => simpa only [step, found, waits] using .turn _
        | some result =>
          simp only [step, found, waits, settle_cancelled mount other (cancelled task found)]
          exact .turn _
      | starting | sleeping | ended => simpa only [step, found, waits] using .rest
  | wake index =>
    cases turn
    cases found : mount.tasks[other]? with
    | none => simpa only [step, found] using .rest
    | some task =>
      cases sleeps : task.phase with
      | sleeping previous =>
        simp only [step, found, sleeps, wake_cancelled mount other (cancelled task found)]
        exact .turn _
      | starting | fetching | ended => simpa only [step, found, sleeps] using .rest
  | notice index =>
    cases turn
    simp only [step]
    split
    · split
      · exact .turn _
      · exact .turn _
      · exact .rest
    · exact .rest

namespace Drives

variable {mount : Mount κ α} {index : Nat} {identity : κ} {phase : Phase α}

omit [DecidableEq κ] in
theorem up (drives : Drives mount index identity phase) : mount.container.tornDown = false :=
  drives.sound.up (drives.sound.live drives.found rfl).2.2

omit [DecidableEq κ] in
/-- Every other task has been stopped. -/
theorem alone (drives : Drives mount index identity phase) {other : Nat} (differ : other ≠ index)
    {task : LoadTask κ α} (found : mount.tasks[other]? = some task) : task.cancelled = true := by
  by_contra running
  have last := (drives.sound.live drives.found rfl).1
  have same := (drives.sound.live found (eq_false_of_ne_true running)).1
  omega

theorem ask {ticket : Ticket} {previous : Option α}
    (drives : Drives mount index identity (.starting ticket previous)) :
    mount.step (.fetch index) =
        (mount.setPhase index (.fetching ticket previous), [.asked index identity previous]) ∧
      Drives (mount.step (.fetch index)).1 index identity (.fetching ticket previous) := by
  have stepped : mount.step (.fetch index) =
      (mount.setPhase index (.fetching ticket previous), [.asked index identity previous]) := by
    simp only [step, drives.found]
  refine ⟨stepped, (turn_step mount _).sound drives.sound, ?_, ?_⟩
  · rw [stepped]
    exact getElem?_setPhase_self drives.found _
  · rw [stepped]
    exact drives.current

theorem take {ticket : Ticket} {previous : Option α}
    (drives : Drives mount index identity (.fetching ticket previous))
    (result : Except ClientError α) :
    (mount.step (.settle index (some result))).2 =
        .published (mount.outcomeState result) ::
          (mount.followUp index identity previous result).2 ∧
      Drives (mount.step (.settle index (some result))).1 index identity
        (mount.followUp index identity previous result).1 := by
  have stepped : mount.step (.settle index (some result)) =
      mount.settle index ⟨identity, false, .fetching ticket previous⟩ ticket previous result := by
    simp only [step, drives.found]
  rw [settle_live mount index ⟨identity, false, _⟩ rfl drives.up (drives.current ticket rfl)]
    at stepped
  refine ⟨by rw [stepped], (turn_step mount _).sound drives.sound, ?_, ?_⟩
  · rw [stepped]
    exact getElem?_setPhase_self drives.found _
  · rw [ticket?_followUp]
    rintro waiting ⟨⟩

theorem wake {previous : Option α} (drives : Drives mount index identity (.sleeping previous)) :
    (mount.step (.wake index)).2 = [.published .loading] ∧
      Drives (mount.step (.wake index)).1 index identity
        (.starting (mount.container.request identity).ticket previous) := by
  have stepped : mount.step (.wake index) =
      mount.wake index ⟨identity, false, .sleeping previous⟩ previous := by
    simp only [step, drives.found]
  rw [wake_live mount index ⟨identity, false, _⟩ rfl drives.up] at stepped
  refine ⟨by rw [stepped], (turn_step mount _).sound drives.sound, ?_, ?_⟩
  · rw [stepped]
    exact getElem?_setPhase_self drives.found _
  · rw [stepped]
    rintro ticket ⟨⟩
    rfl

/-- A turn of another task changes nothing of the one that drives. -/
theorem others (drives : Drives mount index identity phase) {event : MountEvent κ α} {other : Nat}
    (turn : event.task? = some other) (differ : other ≠ index) :
    Move mount index identity phase phase ((mount.step event).2.filterMap MountEffect.shown?)
        ((mount.step event).2.filterMap (MountEffect.told? index)) none ∧
      Drives (mount.step event).1 index identity phase := by
  have fades := step_of_cancelled turn fun task found => drives.alone differ found
  have sound := (turn_step mount event).sound drives.sound
  generalize mount.step event = stepped at fades sound
  cases fades with
  | rest => exact ⟨.rest phase, drives⟩
  | turn next =>
    exact ⟨.rest phase, sound, (getElem?_setPhase_of_ne differ next).trans drives.found,
      drives.current⟩
  | ask next identity' previous =>
    have untold : [MountEffect.asked (α := α) other identity' previous].filterMap
        (MountEffect.told? index) = [] := by
      simp [MountEffect.told?, differ]
    refine ⟨?_, sound, (getElem?_setPhase_of_ne differ next).trans drives.found, drives.current⟩
    rw [untold]
    exact .rest phase

/-- A turn that is not open to the task that drives changes nothing. -/
theorem idle (drives : Drives mount index identity phase) {event : MountEvent κ α}
    (stays : mount.step event = (mount, [])) (untaken : mount.taken? index event = none) :
    ∃ next,
      Move mount index identity phase next ((mount.step event).2.filterMap MountEffect.shown?)
        ((mount.step event).2.filterMap (MountEffect.told? index)) (mount.taken? index event) ∧
      Drives (mount.step event).1 index identity next := by
  rw [stays, untaken]
  exact ⟨phase, .rest phase, drives⟩

/-- Every turn of a task moves the task that drives. -/
theorem step (drives : Drives mount index identity phase) {event : MountEvent κ α}
    (isTask : event.task?.isSome = true) (answered : event ≠ .settle index none) :
    ∃ next,
      Move mount index identity phase next ((mount.step event).2.filterMap MountEffect.shown?)
        ((mount.step event).2.filterMap (MountEffect.told? index)) (mount.taken? index event) ∧
      Drives (mount.step event).1 index identity next := by
  obtain ⟨task, turn⟩ := Option.isSome_iff_exists.1 isTask
  by_cases own : task = index
  · subst own
    cases event with
    | setIdentity | reload | unmount | drop => cases turn
    | fetch =>
      cases turn
      cases phase with
      | starting ticket previous =>
        obtain ⟨stepped, next⟩ := drives.ask
        refine ⟨_, ?_, next⟩
        have told : [MountEffect.asked task identity previous].filterMap
            (MountEffect.told? task) = [previous] := by
          simp [MountEffect.told?]
        rw [stepped, told]
        exact .ask ticket previous
      | fetching | sleeping | ended =>
        exact drives.idle (by simp only [Mount.step, drives.found]) rfl
    | settle task outcome =>
      cases turn
      cases phase with
      | fetching ticket previous =>
        cases outcome with
        | none => contradiction
        | some result =>
          obtain ⟨effects, next⟩ := drives.take result
          refine ⟨_, ?_, next⟩
          have taken : mount.taken? task (.settle task (some result)) = some result := by
            simp [taken?, drives.found]
          rw [effects, taken, List.filterMap_cons, List.filterMap_cons, shown_followUp,
            told_followUp]
          exact .take ticket previous result
      | starting | sleeping | ended =>
        refine drives.idle (by simp only [Mount.step, drives.found]) ?_
        cases outcome <;> simp [taken?, drives.found]
    | wake =>
      cases turn
      cases phase with
      | sleeping previous =>
        obtain ⟨effects, next⟩ := drives.wake
        refine ⟨_, ?_, next⟩
        rw [effects]
        exact .wake _ previous
      | starting | fetching | ended =>
        exact drives.idle (by simp only [Mount.step, drives.found]) rfl
    | notice =>
      cases turn
      exact drives.idle (by simp only [Mount.step, drives.found]) rfl
  · have untaken : mount.taken? index event = none := by
      cases event with
      | settle other outcome =>
        cases turn
        cases outcome with
        | none => rfl
        | some result =>
          unfold taken?
          dsimp only
          split
          · exact if_neg own
          · rfl
      | _ => rfl
    rw [untaken]
    exact ⟨phase, drives.others turn own⟩

end Drives

/-! ## Many turns -/

/-- The outcomes that task `index` takes, in order. -/
def taken (mount : Mount κ α) (index : Nat) :
    List (MountEvent κ α) → List (Except ClientError α)
  | [] => []
  | event :: events =>
      (mount.taken? index event).toList ++ (mount.step event).1.taken index events

/-- The states that a round is seen by. -/
def round (what : String) (result : Except ClientError α) : List (LoadState α) :=
  [.loading, .ofOutcome (result.mapError fun error => error.notice what)]

/-- The data of the last success. -/
def latest? (results : List (Except ClientError α)) : Option α :=
  (results.filterMap Except.toOption).getLast?

omit [DecidableEq κ] in
theorem latest?_concat (results : List (Except ClientError α)) (result : Except ClientError α) :
    latest? (results ++ [result]) = (result.toOption <|> latest? results) := by
  cases result with
  | ok data => simp [latest?, Except.toOption]
  | error error => simp [latest?, Except.toOption]

/-- What the outcomes that a task has taken say of all that it has done. -/
structure Polled (what : String) (refresh : Refresh κ α) (index : Nat) (identity : κ)
    (mount : Mount κ α) (results : List (Except ClientError α)) (shown : List (LoadState α))
    (told : List (Option α)) (phase : Phase α) : Prop where
  drives : Drives mount index identity phase
  named : mount.what = what
  policy : mount.refresh = refresh
  shows : shown = results.flatMap (round what) ++
    if phase.ticket?.isSome then [.loading] else []
  tells : told = (List.range (results.length + if phase.isFetching then 1 else 0)).map
    fun count => latest? (results.take count)
  knows : ∀ previous ∈ phase.previous?, previous = latest? results
  ends : phase = .ended ↔ ∃ result ∈ results.getLast?, refresh.stopsAfter identity result = true
  goesOn : ∀ result ∈ results.dropLast, refresh.stopsAfter identity result = false

omit [DecidableEq κ] in
theorem Turn.refresh {mount next : Mount κ α} {event : MountEvent κ α}
    {effects : List (MountEffect κ α)} (turn : Turn mount event next effects) :
    next.refresh = mount.refresh := by
  cases turn <;> rfl

namespace Polled

variable {what : String} {refresh : Refresh κ α} {index : Nat} {identity : κ} {mount : Mount κ α}
  {results : List (Except ClientError α)} {shown : List (LoadState α)} {told : List (Option α)}
  {phase : Phase α}

omit [DecidableEq κ] in
/-- None of the outcomes of a task that has not ended was its last. -/
theorem goesOn_of_running
    (polled : Polled what refresh index identity mount results shown told phase) (running : phase ≠ .ended) :
    ∀ result ∈ results, refresh.stopsAfter identity result = false := by
  intro result member
  cases last : results.getLast? with
  | none =>
    rw [List.getLast?_eq_none_iff.1 last] at member
    contradiction
  | some final =>
    obtain ⟨front, rfl⟩ := List.getLast?_eq_some_iff.1 last
    rcases List.mem_append.1 member with member | member
    · exact polled.goesOn result (by rwa [List.dropLast_concat])
    · obtain rfl := List.mem_singleton.1 member
      by_contra stops
      exact running (polled.ends.2 ⟨result, last, eq_true_of_ne_false stops⟩)

/-- One turn of a task. -/
theorem step (polled : Polled what refresh index identity mount results shown told phase)
    {event : MountEvent κ α} (isTask : event.task?.isSome = true)
    (answered : event ≠ .settle index none) :
    ∃ next, Polled what refresh index identity (mount.step event).1
      (results ++ (mount.taken? index event).toList)
      (shown ++ (mount.step event).2.filterMap MountEffect.shown?)
      (told ++ (mount.step event).2.filterMap (MountEffect.told? index)) next := by
  obtain ⟨next, move, drives⟩ := polled.drives.step isTask answered
  have named := (turn_step mount event).what.trans polled.named
  have policy := (turn_step mount event).refresh.trans polled.policy
  refine ⟨next, ?_⟩
  generalize (mount.step event).1 = after at *
  generalize (mount.step event).2.filterMap MountEffect.shown? = shown' at *
  generalize (mount.step event).2.filterMap (MountEffect.told? index) = told' at *
  generalize mount.taken? index event = taken' at *
  cases move with
  | rest =>
    simp only [Option.toList_none, List.append_nil]
    exact { polled with drives, named, policy }
  | ask ticket previous =>
    simp only [Option.toList_none, List.append_nil]
    refine ⟨drives, named, policy, polled.shows, ?_, polled.knows, ?_, polled.goesOn⟩
    · rw [polled.tells, polled.knows previous rfl]
      simp [Phase.isFetching, List.range_succ]
    · rw [← polled.ends]
      simp
  | take ticket previous result =>
    have going := polled.goesOn_of_running nofun
    have awake : (mount.followUp index identity previous result).1.isFetching = false := by
      unfold followUp
      split <;> rfl
    simp only [Option.toList_some]
    refine ⟨drives, named, policy, ?_, ?_, ?_, ?_, ?_⟩
    · rw [polled.shows, ticket?_followUp, outcomeState, polled.named]
      simp [Phase.ticket?, round]
    · rw [polled.tells, awake, List.append_nil, List.length_append]
      apply List.map_congr_left
      intro count inside
      rw [List.take_append_of_le_length (Nat.le_of_lt_succ (List.mem_range.1 inside))]
    · intro data known
      rw [latest?_concat, ← polled.knows previous rfl]
      cases stops : mount.refresh.stopsAfter identity result with
      | true =>
        rw [followUp_of_stopsAfter stops] at known
        contradiction
      | false =>
        rw [followUp_of_goesOn stops] at known
        exact (Option.some.inj known).symm
    · rw [List.getLast?_concat, ← polled.policy]
      cases stops : mount.refresh.stopsAfter identity result with
      | true => simp [followUp_of_stopsAfter stops, stops]
      | false => simp [followUp_of_goesOn stops, stops]
    · rwa [List.dropLast_concat]
  | wake ticket previous =>
    simp only [Option.toList_none, List.append_nil]
    refine ⟨drives, named, policy, ?_, polled.tells, polled.knows, ?_, polled.goesOn⟩
    · rw [polled.shows]
      simp [Phase.ticket?]
    · rw [← polled.ends]
      simp

/-- Any turns of tasks. -/
theorem run (polled : Polled what refresh index identity mount results shown told phase)
    (events : List (MountEvent κ α)) (areTasks : ∀ event ∈ events, event.task?.isSome = true)
    (answered : .settle index none ∉ events) :
    ∃ last, Polled what refresh index identity (mount.run events).1
      (results ++ mount.taken index events)
      (shown ++ (mount.run events).2.filterMap MountEffect.shown?)
      (told ++ (mount.run events).2.filterMap (MountEffect.told? index)) last := by
  induction events generalizing mount results shown told phase with
  | nil => exact ⟨phase, by simpa [Mount.run, taken] using polled⟩
  | cons event events ih =>
    obtain ⟨next, stepped⟩ := polled.step (areTasks event List.mem_cons_self)
      fun same => answered (same ▸ List.mem_cons_self)
    obtain ⟨last, reached⟩ := ih stepped
      (fun event member => areTasks event (List.mem_cons_of_mem _ member))
      fun member => answered (List.mem_cons_of_mem _ member)
    refine ⟨last, ?_⟩
    simpa [Mount.run, taken, List.append_assoc] using reached

end Polled

/-- The turns of a task that gets these outcomes, when no other task comes in between. -/
def rounds (index : Nat) (results : List (Except ClientError α)) : List (MountEvent κ α) :=
  results.flatMap fun result => [.fetch index, .settle index (some result), .wake index]

/-- Outcomes of which none but the last can be the last are all taken. -/
theorem taken_rounds {mount : Mount κ α} {index : Nat} {identity : κ} {ticket : Ticket}
    {previous : Option α} (drives : Drives mount index identity (.starting ticket previous))
    (results : List (Except ClientError α))
    (goesOn : ∀ result ∈ results.dropLast, mount.refresh.stopsAfter identity result = false) :
    mount.taken index (rounds index results) = results := by
  induction results generalizing mount ticket previous with
  | nil => rfl
  | cons result rest ih =>
    obtain ⟨-, asked⟩ := drives.ask
    obtain ⟨-, settled⟩ := asked.take result
    have got : (mount.step (.fetch index)).1.taken? index (.settle index (some result)) =
        some result := by
      simp [taken?, asked.found]
    have kept : ((mount.step (.fetch index)).1.step (.settle index (some result))).1.refresh =
        mount.refresh :=
      (turn_step _ _).refresh.trans (turn_step _ _).refresh
    have first : mount.taken index (rounds index (result :: rest)) = result ::
        (((mount.step (.fetch index)).1.step (.settle index (some result))).1.step
          (.wake index)).1.taken index (rounds index rest) := by
      change (mount.taken? index (.fetch index)).toList ++
        (Option.toList _ ++ (Option.toList _ ++ _)) = _
      rw [got]
      rfl
    rw [first]
    cases rest with
    | nil => rfl
    | cons next rest =>
      have onward : mount.refresh.stopsAfter identity result = false := goesOn result (by simp)
      rw [followUp_of_goesOn ((turn_step mount (.fetch index)).refresh.symm ▸ onward)] at settled
      obtain ⟨-, woken⟩ := settled.wake
      rw [ih woken]
      intro later member
      rw [(turn_step _ _).refresh, kept]
      exact goesOn later (by simp [member])

/-! ## From the beginning of a task -/

/-- A mount of which the newest task has just been made, with what was seen of that: at its
start, or after a new identity or a reload at any time. -/
inductive Begins (what : String) (refresh : Refresh κ α) :
    κ → Mount κ α × List (MountEffect κ α) → Prop
  | start (identity : κ) : Begins what refresh identity (start identity what refresh)
  | setIdentity (first : κ) (events : List (MountEvent κ α)) (identity : κ)
      (opened : ((start first what refresh).1.run events).1.closed = false)
      (other : identity ≠ ((start first what refresh).1.run events).1.identity) :
      Begins what refresh identity
        (((start first what refresh).1.run events).1.step (.setIdentity identity))
  | reload (first : κ) (events : List (MountEvent κ α))
      (opened : ((start first what refresh).1.run events).1.closed = false) :
      Begins what refresh ((start first what refresh).1.run events).1.identity
        (((start first what refresh).1.run events).1.step .reload)

theorem refresh_run (mount : Mount κ α) (events : List (MountEvent κ α)) :
    (mount.run events).1.refresh = mount.refresh := by
  induction events generalizing mount with
  | nil => rfl
  | cons event rest ih => exact (ih _).trans (turn_step mount event).refresh

omit [DecidableEq κ] in
/-- A restart makes a task that is about to ask, told nothing. -/
theorem polled_restart {what : String} {refresh : Refresh κ α} {mount : Mount κ α}
    (named : mount.what = what) (policy : mount.refresh = refresh) (sound : Sound mount)
    (opened : mount.closed = false) (identity : κ) :
    let begun := { mount with identity := identity }.restart
    begun.2 = [.published .loading] ∧
      ∃ ticket, Polled what refresh (begun.1.tasks.length - 1) identity begun.1 [] [.loading] []
        (.starting ticket none) := by
  intro begun
  have shown : begun.2 = [.published (mount.container.request identity).state] := rfl
  refine ⟨by rw [shown, Container.state_request (sound.up opened)], begun.1.container.ticket,
    ⟨sound.restart opened identity, ?_, ?_⟩, named, policy, rfl, rfl, ?_, ?_, ?_⟩
  · simp only [begun, tasks_restart, List.length_append, List.length_singleton,
      Nat.add_sub_cancel, List.getElem?_concat_length]
    rfl
  · rintro ticket ⟨⟩
    rfl
  · rintro previous ⟨⟩
    rfl
  · simp
  · simp

theorem Begins.polled {what : String} {refresh : Refresh κ α} {identity : κ}
    {begun : Mount κ α × List (MountEffect κ α)} (begins : Begins what refresh identity begun) :
    begun.2 = [.published .loading] ∧
      ∃ ticket, Polled what refresh (begun.1.tasks.length - 1) identity begun.1 [] [.loading] []
        (.starting ticket none) := by
  cases begins with
  | start identity =>
    have empty : Sound (⟨what, refresh, identity, .empty, .idle, [], false⟩ : Mount κ α) :=
      ⟨rfl, nofun, nofun⟩
    exact polled_restart rfl rfl empty rfl identity
  | setIdentity first events identity opened other =>
    rw [step_setIdentity opened other]
    exact polled_restart (what_run _ events) (refresh_run _ events)
      (sound_run (sound_start first what refresh) events) opened identity
  | reload first events opened =>
    rw [step_reload opened]
    exact polled_restart (what_run _ events) (refresh_run _ events)
      (sound_run (sound_start first what refresh) events) opened _

/-- A task from its beginning on, in any turns of tasks in which none of its requests is
cancelled. Others see loading and what came, in turn, for each outcome that it has taken, and
loading again while the next one is to come. Each request is told the data of the last success
before it, the first one none. The task has ended when its last outcome was one to stop after,
and none before was. All sequences of outcomes can be taken up to the first of that kind. -/
theorem task_polls_until_final {what : String} {refresh : Refresh κ α} {identity : κ}
    {begun : Mount κ α × List (MountEffect κ α)} (begins : Begins what refresh identity begun) :
    let index := begun.1.tasks.length - 1
    (∀ events, (∀ event ∈ events, event.task?.isSome = true) → .settle index none ∉ events →
      let last := begun.1.run events
      let results := begun.1.taken index events
      ∃ phase, last.1.tasks[index]? = some ⟨identity, false, phase⟩ ∧
        (begun.2 ++ last.2).filterMap MountEffect.shown? =
          results.flatMap (round what) ++ (if phase.ticket?.isSome then [.loading] else []) ∧
        last.2.filterMap (MountEffect.told? index) =
          (List.range (results.length + if phase.isFetching then 1 else 0)).map
            (fun count => latest? (results.take count)) ∧
        (phase = .ended ↔
          ∃ result ∈ results.getLast?, refresh.stopsAfter identity result = true) ∧
        ∀ result ∈ results.dropLast, refresh.stopsAfter identity result = false) ∧
    ∀ results : List (Except ClientError α),
      (∀ result ∈ results.dropLast, refresh.stopsAfter identity result = false) →
      begun.1.taken index (rounds index results) = results := by
  intro index
  obtain ⟨shown, ticket, polled⟩ := begins.polled
  constructor
  · intro events areTasks answered last results
    obtain ⟨phase, reached⟩ := polled.run events areTasks answered
    refine ⟨phase, reached.drives.found, ?_, reached.tells, reached.ends, reached.goesOn⟩
    rw [shown]
    exact reached.shows
  · intro results goesOn
    apply taken_rounds polled.drives
    rwa [polled.policy]

/-- Polls every ten milliseconds until a number is above four. -/
def untilLarge : Refresh Nat Nat := .every 10 fun _ seen => decide (4 < seen)

/-- A mount that has been reloaded while its first request was under way. -/
def reloaded : Mount Nat Nat × List (MountEffect Nat Nat) :=
  ((start 7 "run" untilLarge).1.run [.fetch 0]).1.step .reload

/-- One poll fails, two succeed, and the answer to the request before the reload comes late. -/
def bumpyRounds : List (MountEvent Nat Nat) :=
  [.fetch 1, .settle 0 (some (.ok 9)), .settle 1 (some (.error (.http 503 "busy"))), .wake 1,
    .fetch 1, .settle 1 (some (.ok 1)), .wake 1, .fetch 1, .settle 1 (some (.ok 5))]

/-- After the failure the task goes on, and it ends with the data that is final. -/
theorem failure_keeps_polling :
    (∀ event ∈ bumpyRounds, event.task?.isSome = true) ∧ .settle 1 none ∉ bumpyRounds ∧
      (reloaded.2 ++ (reloaded.1.run bumpyRounds).2).filterMap MountEffect.shown? =
        [.loading, .failed ((ClientError.http 503 "busy").notice "run"), .loading, .loaded 1,
          .loading, .loaded 5] ∧
      (reloaded.1.run bumpyRounds).2.filterMap (MountEffect.told? 1) = [none, none, some 1] ∧
      (reloaded.1.run bumpyRounds).1.tasks[1]? = some ⟨7, false, .ended⟩ := by
  have begins : Begins "run" untilLarge 7 reloaded := .reload 7 [.fetch 0] rfl
  have areTasks : ∀ event ∈ bumpyRounds, event.task?.isSome = true := by
    simp [bumpyRounds, MountEvent.task?]
  have answered : .settle 1 none ∉ bumpyRounds := by
    simp [bumpyRounds]
  obtain ⟨phase, found, shown, told, ends, -⟩ :=
    (task_polls_until_final begins).1 bumpyRounds areTasks answered
  obtain rfl := ends.2 ⟨.ok 5, rfl, rfl⟩
  exact ⟨areTasks, answered, shown, told, found⟩

end Mount

end RunBoard.Load
