import RunBoard.Proofs.Jobs.Calls

/-!
# Completed jobs in the store

A job that the store has loaded and that is completed is not asked for again. Nothing in the
store guards such a job: a call for it that ends without an answer, or an older answer that
arrives late, takes it back. These are the only ways to lose it, and when the gateway never
reopens a job, only what was under way when the job came can take it.
-/

namespace RunBoard.Jobs

/-! ## Actions on a completed job -/

/-- Whether the last of these jobs that has this name is still open. -/
def leavesOpen (name : String) (jobs : List Job) : Bool :=
  (lastNamed? name jobs).any fun job => !job.isCompleted

/-- Whether an action takes away the certainty that a job is loaded and completed. -/
def Action.unsettles (name : String) : Action → Bool
  | .getJobRequest asked | .getJobFailed asked => asked = name
  | action => leavesOpen name action.jobs

theorem leavesOpen_nil (name : String) : leavesOpen name [] = false := rfl

theorem Store.isCachedTerminal_dispatch {store : Store} {name : String}
    (cached : store.isCachedTerminal name = true) (action : Action) :
    (store.dispatch action).isCachedTerminal name = !action.unsettles name := by
  obtain ⟨loaded, completed⟩ : store.status? name = some .loaded ∧
      (store.job? name).any Job.isCompleted = true := by
    simpa [isCachedTerminal] using cached
  unfold isCachedTerminal
  rw [status?_dispatch, job?_dispatch]
  cases action with
  | getJobRequest asked | getJobFailed asked =>
      by_cases same : asked = name
      · simp [Action.statusFor?, Action.unsettles, same]
      · simp [Action.statusFor?, Action.unsettles, Action.jobs, lastNamed?, same, loaded, completed]
  | fetchJobsRequest key | fetchJobsFailed key =>
      simp [Action.statusFor?, Action.unsettles, Action.jobs, leavesOpen, lastNamed?, loaded,
        completed]
  | getJobSuccess job =>
      by_cases same : job.name = name <;>
        simp [Action.statusFor?, Action.unsettles, Action.jobs, leavesOpen, lastNamed?_singleton,
          same, loaded, completed]
  | fetchJobsSuccess key response =>
      cases last : lastNamed? name response.jobs with
      | none =>
          have absent : name ∉ response.jobs.map Job.name := by
            rw [← lastNamed?_isSome, last]
            exact Bool.false_ne_true
          rw [Action.statusFor?, if_neg absent]
          simp [Action.unsettles, Action.jobs, leavesOpen, last, loaded, completed]
      | some job =>
          have listed : name ∈ response.jobs.map Job.name := by
            rw [← lastNamed?_isSome, last]
            rfl
          rw [Action.statusFor?, if_pos listed]
          simp [Action.unsettles, Action.jobs, leavesOpen, last]

/-! ## Answers on their way -/

/-- What the gateway answers to a call. -/
inductive Answer where
  | list (response : JobList)
  | job (copy : Job)

namespace Answer

def jobs : Answer → List Job
  | list response => response.jobs
  | job copy => [copy]

/-- Whether this is an answer to such a call. -/
def fits : Answer → Call → Bool
  | list _, .list _ => true
  | job _, .job _ => true
  | _, _ => false

/-- The finish of the call with this number by an answer. -/
def arrival (number : Nat) : Answer → CallEvent
  | list response => .finishList number (some (.ok response))
  | job copy => .finishJob number (some (.ok copy))

end Answer

/-- A session and its gateway. An answer is given at one moment and arrives at a later one. -/
structure Traffic where
  session : Session
  /-- The answers that have not arrived, each with the number of its call. -/
  underWay : List (Nat × Answer)
  /-- All answers in the order in which they were given. -/
  given : List Answer

inductive TrafficEvent where
  | start (number : Nat) (call : Call)
  | give (number : Nat) (answer : Answer)
  | arrive (number : Nat)
  /-- A call ends without its answer, by an error or because it was cancelled. -/
  | lose (number : Nat) (error : Option ClientError)

namespace Traffic

def new (store : Store) : Traffic := ⟨Session.new store, [], []⟩

/-- The traffic after a call has come to its end. -/
def finish (traffic : Traffic) (number : Nat) (event : CallEvent) : Traffic :=
  { traffic with
    session := (traffic.session.step event).2
    underWay := traffic.underWay.filter fun entry => entry.1 ≠ number }

/-- One event. The gateway answers calls that wait, and what is not under way does not arrive. -/
def step (traffic : Traffic) : TrafficEvent → Traffic
  | .start number call =>
      { traffic with session := (traffic.session.step (.start number call)).2 }
  | .give number answer =>
      if (traffic.session.call? number).any answer.fits then
        { traffic with
          underWay := traffic.underWay ++ [(number, answer)]
          given := traffic.given ++ [answer] }
      else traffic
  | .arrive number =>
      match traffic.underWay.lookup number with
      | some answer => traffic.finish number (answer.arrival number)
      | none => traffic
  | .lose number error =>
      match traffic.session.call? number with
      | some (.list _) => traffic.finish number (.finishList number (error.map .error))
      | some (.job _) => traffic.finish number (.finishJob number (error.map .error))
      | none => traffic

/-- The traffic after these events. -/
def after (traffic : Traffic) (events : List TrafficEvent) : Traffic := events.foldl step traffic

theorem after_concat (traffic : Traffic) (events : List TrafficEvent) (event : TrafficEvent) :
    traffic.after (events ++ [event]) = (traffic.after events).step event :=
  List.foldl_append

theorem after_append (traffic : Traffic) (first second : List TrafficEvent) :
    traffic.after (first ++ second) = (traffic.after first).after second :=
  List.foldl_append

/-- Whether the store has the job, completed, and will not ask for it again. -/
def Has (traffic : Traffic) (name : String) : Prop :=
  traffic.session.store.isCachedTerminal name = true

/-- An event that takes a completed job from the store: a call for the job ends without an
answer, or an answer arrives at its call in which the job is still open. -/
inductive Disturbs (traffic : Traffic) (name : String) : TrafficEvent → Prop where
  | lost {number : Nat} (error : Option ClientError)
      (waiting : traffic.session.call? number = some (.job name)) :
      Disturbs traffic name (.lose number error)
  | outdated {number : Nat} {call : Call} {answer : Answer}
      (waiting : traffic.session.call? number = some call)
      (coming : traffic.underWay.lookup number = some answer)
      (fits : answer.fits call = true) (opened : leavesOpen name answer.jobs = true) :
      Disturbs traffic name (.arrive number)

end Traffic

namespace Session

variable {session : Session} {name : String}

/-- The session that a finish leaves still has the job, unless its action unsettles that. -/
theorem isCachedTerminal_step (cached : session.store.isCachedTerminal name = true)
    (event : CallEvent) :
    (session.step event).2.store.isCachedTerminal name =
      ((session.action? event).all fun action => !action.unsettles name) := by
  rw [store_step]
  cases session.action? event with
  | none => exact cached
  | some action => exact Store.isCachedTerminal_dispatch cached action

/-- A job that the store has is not asked for. -/
theorem start_cached (cached : session.store.isCachedTerminal name = true) (number : Nat) :
    session.step (.start number (.job name)) = (some .cached, session) := by
  simp [step, Store.beginJob?, cached]

theorem unsettles_arrival (number : Nat) (answer : Answer) :
    (session.action? (answer.arrival number)).all (fun action => !action.unsettles name) =
      !((session.call? number).any answer.fits && leavesOpen name answer.jobs) := by
  cases answer with
  | list response =>
      cases waiting : session.call? number with
      | none => simp [Answer.arrival, action?, waiting]
      | some call =>
          cases call with
          | list key => simp [Answer.arrival, Answer.fits, Answer.jobs, action?, waiting,
              Action.ofList, Action.unsettles, Action.jobs]
          | job asked => simp [Answer.arrival, Answer.fits, action?, waiting]
  | job copy =>
      cases waiting : session.call? number with
      | none => simp [Answer.arrival, action?, waiting]
      | some call =>
          cases call with
          | list key => simp [Answer.arrival, Answer.fits, action?, waiting]
          | job asked => simp [Answer.arrival, Answer.fits, Answer.jobs, action?, waiting,
              Action.ofJob, Action.unsettles, Action.jobs]

end Session

namespace Traffic

variable {traffic : Traffic} {name : String}

theorem disturbs_arrive_iff {number : Nat} {answer : Answer}
    (coming : traffic.underWay.lookup number = some answer) :
    traffic.Disturbs name (.arrive number) ↔
      (traffic.session.call? number).any answer.fits = true ∧
        leavesOpen name answer.jobs = true := by
  constructor
  · intro disturbs
    cases disturbs with
    | outdated waiting found fits opened =>
        rw [coming] at found
        cases found
        exact ⟨by rw [waiting]; exact fits, opened⟩
  · rintro ⟨heard, opened⟩
    cases waiting : traffic.session.call? number with
    | none => rw [waiting] at heard; cases heard
    | some call =>
        rw [waiting] at heard
        exact .outdated waiting coming heard opened

theorem disturbs_lose_iff {number : Nat} {error : Option ClientError} :
    traffic.Disturbs name (.lose number error) ↔
      traffic.session.call? number = some (.job name) :=
  ⟨fun disturbs => by cases disturbs; assumption, .lost error⟩

/-- A completed job stays through an event exactly if the event does not disturb it. -/
theorem has_step_iff (has : traffic.Has name) (event : TrafficEvent) :
    (traffic.step event).Has name ↔ ¬ traffic.Disturbs name event := by
  cases event with
  | start number call =>
      have kept : (traffic.step (.start number call)).Has name := by
        refine (Session.isCachedTerminal_step has _).trans ?_
        cases call with
        | list key => rfl
        | job asked =>
            cases cached : traffic.session.store.isCachedTerminal asked with
            | true => simp [Session.action?, cached]
            | false =>
                have other : asked ≠ name := fun same => by
                  rw [same, show _ = true from has] at cached
                  cases cached
                simp [Session.action?, cached, Action.unsettles, other]
      exact iff_of_true kept fun disturbs => by cases disturbs
  | give number answer =>
      have kept : (traffic.step (.give number answer)).Has name := by
        simp only [step]
        split <;> exact has
      exact iff_of_true kept fun disturbs => by cases disturbs
  | arrive number =>
      cases coming : traffic.underWay.lookup number with
      | none =>
          have kept : (traffic.step (.arrive number)).Has name := by simpa [step, coming] using has
          refine iff_of_true kept fun disturbs => ?_
          cases disturbs with
          | outdated _ found => rw [coming] at found; cases found
      | some answer =>
          have finished : (traffic.step (.arrive number)).session.store.isCachedTerminal name =
              !((traffic.session.call? number).any answer.fits && leavesOpen name answer.jobs) := by
            rw [step, coming]
            exact (Session.isCachedTerminal_step has _).trans (Session.unsettles_arrival ..)
          rw [disturbs_arrive_iff coming, Has, finished, Bool.not_eq_true', ← Bool.not_eq_true,
            Bool.and_eq_true]
  | lose number error =>
      rw [disturbs_lose_iff]
      cases waiting : traffic.session.call? number with
      | none =>
          have kept : (traffic.step (.lose number error)).Has name := by
            simpa [step, waiting] using has
          exact iff_of_true kept (by simp)
      | some call =>
          cases call with
          | list key =>
              have kept : (traffic.step (.lose number error)).Has name := by
                rw [Has, step, waiting]
                refine (Session.isCachedTerminal_step has _).trans ?_
                cases error <;> simp [Session.action?, waiting, Action.ofList, Action.unsettles,
                  Action.jobs, leavesOpen_nil]
              exact iff_of_true kept (by simp)
          | job asked =>
              have finished : (traffic.step (.lose number error)).session.store.isCachedTerminal
                  name = !decide (asked = name) := by
                rw [step, waiting]
                refine (Session.isCachedTerminal_step has _).trans ?_
                cases error <;> simp [Session.action?, waiting, Action.ofJob, Action.unsettles]
              simp [Has, finished]

/-! ## Runs -/

/-- In all that happens from here on the job is not asked for: the store has it after every
part of these events, so that a call for it ends at once and changes nothing. -/
def Keeps (traffic : Traffic) (name : String) (events : List TrafficEvent) : Prop :=
  ∀ part, part <+: events → (traffic.after part).Has name ∧
    ∀ number, (traffic.after part).session.step (.start number (.job name)) =
      (some .cached, (traffic.after part).session)

theorem keeps_of_has {events : List TrafficEvent}
    (has : ∀ part, part <+: events → (traffic.after part).Has name) :
    traffic.Keeps name events :=
  fun part front => ⟨has part front, Session.start_cached (has part front)⟩

theorem keeps_iff_undisturbed (has : traffic.Has name) (events : List TrafficEvent) :
    traffic.Keeps name events ↔
      ∀ part event, part ++ [event] <+: events → ¬ (traffic.after part).Disturbs name event := by
  constructor
  · intro keeps part event front
    rw [← has_step_iff (keeps part ((List.prefix_append part [event]).trans front)).1 event,
      ← after_concat]
    exact (keeps _ front).1
  · intro undisturbed
    refine keeps_of_has fun part front => ?_
    induction part using List.reverseRecOn with
    | nil => exact has
    | append_singleton part event ih =>
        have before := ih ((List.prefix_append part [event]).trans front)
        rw [after_concat, has_step_iff before]
        exact undisturbed part event front

/-! ## What was under way -/

/-- The copies of a job that the gateway has given, in the order in which it gave them. -/
def copies (traffic : Traffic) (name : String) : List Job :=
  (traffic.given.flatMap Answer.jobs).filter fun job => job.name = name

/-- No copy that is still open comes after one that is completed. -/
def NeverReopens (copies : List Job) : Prop :=
  copies.Pairwise fun earlier later => earlier.isCompleted = true → later.isCompleted = true

/-- The job that the store has under a name, and every answer that has not arrived, came from
the gateway, unless the store started with that job. -/
structure Sourced (initial : Option Job) (traffic : Traffic) (name : String) : Prop where
  stored : ∀ job, traffic.session.store.job? name = some job →
    job ∈ initial.toList ++ traffic.copies name
  carried : ∀ entry ∈ traffic.underWay, entry.2 ∈ traffic.given

theorem mem_copies {answer : Answer} {copy : Job} (given : answer ∈ traffic.given)
    (last : lastNamed? name answer.jobs = some copy) : copy ∈ traffic.copies name := by
  have inside := (List.mem_filter.mp (List.mem_of_getLast? last)).1
  refine List.mem_filter.mpr ⟨List.mem_flatMap.mpr ⟨answer, given, inside⟩, ?_⟩
  simpa using name_of_lastNamed? last

namespace Sourced

variable {initial : Option Job}

/-- What the store has after a turn it had before, or the turn has brought it. -/
theorem stored_step (sourced : Sourced initial traffic name) {event : CallEvent}
    (brought : ∀ action copy, traffic.session.action? event = some action →
      lastNamed? name action.jobs = some copy → copy ∈ traffic.copies name)
    {job : Job} (found : (traffic.session.step event).2.store.job? name = some job) :
    job ∈ initial.toList ++ traffic.copies name := by
  rw [Session.store_step] at found
  cases taken : traffic.session.action? event with
  | none =>
      rw [taken] at found
      exact sourced.stored job found
  | some action =>
      rw [taken, Store.job?_dispatch] at found
      cases last : lastNamed? name action.jobs with
      | none =>
          rw [last] at found
          exact sourced.stored job found
      | some copy =>
          rw [last] at found
          cases found
          exact List.mem_append_right _ (brought action _ taken last)

theorem finish (sourced : Sourced initial traffic name) (number : Nat) {event : CallEvent}
    (brought : ∀ action copy, traffic.session.action? event = some action →
      lastNamed? name action.jobs = some copy → copy ∈ traffic.copies name) :
    Sourced initial (traffic.finish number event) name where
  stored _ found := sourced.stored_step brought found
  carried entry member := sourced.carried entry (List.mem_filter.mp member).1

theorem step (sourced : Sourced initial traffic name) (event : TrafficEvent) :
    Sourced initial (traffic.step event) name := by
  cases event with
  | start number call =>
      refine ⟨fun _ found => sourced.stored_step ?_ found, sourced.carried⟩
      intro action copy taken last
      cases call with
      | list key => cases taken; cases last
      | job asked =>
          simp only [Session.action?, Option.ite_none_left_eq_some] at taken
          cases taken.2
          cases last
  | give number answer =>
      simp only [Traffic.step]
      split
      · refine ⟨fun job found => ?_, fun entry member => ?_⟩
        · rw [copies, List.flatMap_append, List.filter_append, ← List.append_assoc]
          exact List.mem_append_left _ (sourced.stored job found)
        · rcases List.mem_append.mp member with old | new
          · exact List.mem_append_left _ (sourced.carried entry old)
          · rw [List.mem_singleton.mp new]
            exact List.mem_append_right _ List.mem_cons_self
      · exact sourced
  | arrive number =>
      simp only [Traffic.step]
      split
      · next answer coming =>
          obtain ⟨front, back, split, -⟩ := List.lookup_eq_some_iff.1 coming
          have given : answer ∈ traffic.given :=
            sourced.carried (number, answer) (split ▸ List.mem_append_right _ List.mem_cons_self)
          refine sourced.finish number fun action copy taken last => ?_
          have same : action.jobs = answer.jobs := by
            cases answer with
            | list response =>
                simp only [Answer.arrival, Session.action?] at taken
                split at taken <;> cases taken
                rfl
            | job copy =>
                simp only [Answer.arrival, Session.action?] at taken
                split at taken <;> cases taken
                rfl
          exact mem_copies given (same ▸ last)
      · exact sourced
  | lose number error =>
      simp only [Traffic.step]
      split
      · refine sourced.finish number fun action copy taken last => ?_
        simp only [Session.action?] at taken
        split at taken <;> cases taken
        cases error <;> cases last
      · refine sourced.finish number fun action copy taken last => ?_
        simp only [Session.action?] at taken
        split at taken <;> cases taken
        cases error <;> cases last
      · exact sourced

theorem after (sourced : Sourced initial traffic name) (events : List TrafficEvent) :
    Sourced initial (traffic.after events) name := by
  induction events using List.reverseRecOn with
  | nil => exact sourced
  | append_singleton events event ih =>
      rw [after_concat]
      exact ih.step event

end Sourced

theorem sourced_new (store : Store) (name : String) :
    Sourced (store.job? name) (new store) name where
  stored _ found := List.mem_append_left _ (Option.mem_toList.mpr found)
  carried _ member := absurd member List.not_mem_nil

/-- The gateway goes on where it was: what it has given it has given for good. -/
theorem given_step (traffic : Traffic) (event : TrafficEvent) :
    traffic.given <+: (traffic.step event).given := by
  cases event with
  | start number call => exact List.prefix_rfl
  | give number answer =>
      simp only [step]
      split
      · exact List.prefix_append _ _
      · exact List.prefix_rfl
  | arrive number => simp only [step]; split <;> exact List.prefix_rfl
  | lose number error => simp only [step]; split <;> exact List.prefix_rfl

theorem given_after (traffic : Traffic) (events : List TrafficEvent) :
    traffic.given <+: (traffic.after events).given := by
  induction events using List.reverseRecOn with
  | nil => exact List.prefix_rfl
  | append_singleton events event ih =>
      rw [after_concat]
      exact ih.trans (given_step _ event)

theorem copies_of_given {first second : Traffic} (front : first.given <+: second.given) :
    first.copies name <+: second.copies name := by
  obtain ⟨more, split⟩ := front
  rw [copies, copies, ← split, List.flatMap_append, List.filter_append]
  exact List.prefix_append _ _

/-- An answer that is given once the store has the job leaves the job completed, when the
gateway does not reopen jobs. -/
theorem leavesOpen_of_given {initial : Option Job} (sourced : Sourced initial traffic name)
    (has : traffic.Has name) {number : Nat} {answer : Answer}
    (heard : (traffic.session.call? number).any answer.fits = true)
    (promise : NeverReopens (initial.toList ++ (traffic.step (.give number answer)).copies name)) :
    leavesOpen name answer.jobs = false := by
  cases last : lastNamed? name answer.jobs with
  | none => simp [leavesOpen, last]
  | some copy =>
      obtain ⟨job, found, completed⟩ : ∃ job, traffic.session.store.job? name = some job ∧
          job.isCompleted = true := by
        have both := has
        simp only [Has, Store.isCachedTerminal, Bool.and_eq_true] at both
        simpa [Option.any_eq_true] using both.2
      have given : (traffic.step (.give number answer)).copies name =
          traffic.copies name ++ answer.jobs.filter fun job => job.name = name := by
        simp [step, heard, copies]
      rw [given, ← List.append_assoc] at promise
      have later : copy ∈ answer.jobs.filter fun job => job.name = name :=
        List.mem_of_getLast? last
      have kept := (List.pairwise_append.mp promise).2.2 job (sourced.stored job found) copy later
      simp [leavesOpen, last, kept completed]

/-- Nothing is under way that could take the job: no call for it waits, and every answer that
has not arrived leaves it completed or does not speak of it. -/
structure Idle (traffic : Traffic) (name : String) : Prop where
  calls : ∀ number, (number, .job name) ∉ traffic.session.waiting
  answers : ∀ entry ∈ traffic.underWay, leavesOpen name entry.2.jobs = false

namespace Idle

theorem undisturbed (idle : Idle traffic name) (event : TrafficEvent) :
    ¬ traffic.Disturbs name event := by
  intro disturbs
  cases disturbs with
  | @lost number error waiting =>
      obtain ⟨front, back, split, -⟩ := List.lookup_eq_some_iff.1 waiting
      exact idle.calls number (split ▸ List.mem_append_right _ List.mem_cons_self)
  | @outdated number call answer waiting coming fits opened =>
      obtain ⟨front, back, split, -⟩ := List.lookup_eq_some_iff.1 coming
      have settled := idle.answers (number, answer)
        (split ▸ List.mem_append_right _ List.mem_cons_self)
      rw [opened] at settled
      cases settled

/-- A job that the store has is not asked for, so no call for it begins to wait. -/
theorem calls_step (idle : Idle traffic name) (has : traffic.Has name) (event : CallEvent)
    (number : Nat) : (number, .job name) ∉ (traffic.session.step event).2.waiting := by
  intro present
  rcases Session.waiting_step present with old | rfl
  · exact idle.calls number old
  · rw [Session.start_cached has] at present
    exact idle.calls number present

theorem finish (idle : Idle traffic name) (has : traffic.Has name) (number : Nat)
    (event : CallEvent) : Idle (traffic.finish number event) name where
  calls := idle.calls_step has event
  answers entry member := idle.answers entry (List.mem_filter.mp member).1

theorem step (idle : Idle traffic name) (has : traffic.Has name) (event : TrafficEvent)
    (settled : ∀ number answer, event = .give number answer →
      (traffic.session.call? number).any answer.fits = true →
      leavesOpen name answer.jobs = false) :
    Idle (traffic.step event) name := by
  cases event with
  | start number call => exact ⟨idle.calls_step has _, idle.answers⟩
  | give number answer =>
      simp only [Traffic.step]
      split
      · next heard =>
          refine ⟨idle.calls, fun entry member => ?_⟩
          rcases List.mem_append.mp member with old | new
          · exact idle.answers entry old
          · rw [List.mem_singleton.mp new]
            exact settled number answer rfl heard
      · exact idle
  | arrive number =>
      simp only [Traffic.step]
      split
      · exact idle.finish has number _
      · exact idle
  | lose number error =>
      simp only [Traffic.step]
      split
      · exact idle.finish has number _
      · exact idle.finish has number _
      · exact idle

end Idle

/-- When nothing is under way that could take the job, and the gateway does not reopen it,
the store keeps it. -/
theorem keeps_of_idle {initial : Option Job} (sourced : Sourced initial traffic name)
    (has : traffic.Has name) (idle : Idle traffic name) {events : List TrafficEvent}
    (promise : NeverReopens (initial.toList ++ (traffic.after events).copies name)) :
    traffic.Keeps name events := by
  have both : ∀ part, part <+: events →
      (traffic.after part).Has name ∧ Idle (traffic.after part) name := by
    intro part front
    induction part using List.reverseRecOn with
    | nil => exact ⟨has, idle⟩
    | append_singleton part event ih =>
        obtain ⟨hasPart, idlePart⟩ := ih ((List.prefix_append part [event]).trans front)
        obtain ⟨rest, split⟩ := front
        have given : ((traffic.after part).step event).given <+: (traffic.after events).given := by
          rw [← split, after_append, ← after_concat]
          exact given_after _ rest
        have promised : NeverReopens
            (initial.toList ++ ((traffic.after part).step event).copies name) :=
          promise.sublist (List.Sublist.append_left (copies_of_given given).sublist _)
        rw [after_concat]
        refine ⟨(has_step_iff hasPart event).mpr (idlePart.undisturbed event),
          idlePart.step hasPart event fun number answer same heard => ?_⟩
        subst same
        exact leavesOpen_of_given (sourced.after part) hasPart heard promised
  exact keeps_of_has fun part front => (both part front).1

/--
From the moment when the store has a completed job, it keeps the job and does not ask for it
again exactly as long as nothing disturbs it: no call for the job ends without an answer, and
no answer arrives in which it is still open. If the gateway never reopens the job, it is kept
for good whenever nothing of the kind was under way at that moment.
-/
theorem completed_job_stays_unless_disturbed (store : Store) (name : String)
    (before later : List TrafficEvent)
    (promise : NeverReopens
      ((store.job? name).toList ++ ((new store).after (before ++ later)).copies name))
    (has : ((new store).after before).Has name) :
    let now := (new store).after before
    (now.Keeps name later ↔
      ∀ part event, part ++ [event] <+: later → ¬ (now.after part).Disturbs name event) ∧
    (now.Idle name → now.Keeps name later) := by
  intro now
  refine ⟨keeps_iff_undisturbed has later, fun idle => ?_⟩
  rw [after_append] at promise
  exact keeps_of_idle ((sourced_new store name).after before) has idle promise

/-- A completed copy of a job, as short as one can be. -/
def doneCopy (name : String) : Job :=
  ⟨name, .empty, ⟨.successful, .epoch, none⟩, 1, []⟩

/-- A completed job is kept while a list that was asked for before it came arrives after it. -/
theorem completed_job_stays_through_late_list :
    let before : List TrafficEvent :=
      [.start 0 (.list ⟨1, none⟩), .start 1 (.job "a"), .give 1 (.job (doneCopy "a")),
        .give 0 (.list ⟨[doneCopy "a"], 1⟩), .arrive 1]
    let later : List TrafficEvent := [.start 2 (.job "a"), .arrive 0, .start 3 (.job "a")]
    ((new .empty).after before).Keeps "a" later := by
  intro before later
  have waiting : ((new .empty).after before).session.waiting = [(0, .list ⟨1, none⟩)] := by decide
  have underWay : ((new .empty).after before).underWay = [(0, .list ⟨[doneCopy "a"], 1⟩)] := rfl
  refine (completed_job_stays_unless_disturbed .empty "a" before later ?_ rfl).2 ⟨?_, ?_⟩
  · unfold NeverReopens
    decide
  · simp [waiting]
  · rw [underWay]
    intro entry member
    rw [List.mem_singleton.mp member]
    decide

/--
A completed job is lost when two calls for it overlap and the second one fails: the store
asks for it again, although the gateway has never said anything else of it.
-/
theorem completed_job_lost_by_overlapping_failure :
    ¬ ∀ (store : Store) (name : String) (before later : List TrafficEvent),
      NeverReopens
        ((store.job? name).toList ++ ((new store).after (before ++ later)).copies name) →
      ((new store).after before).Has name → ((new store).after before).Keeps name later := by
  intro stays
  have keeps := stays .empty "a"
    [.start 0 (.job "a"), .start 1 (.job "a"), .give 0 (.job (doneCopy "a")), .arrive 0]
    [.lose 1 (some (.http 500 "Internal Server Error"))] ?_ rfl
  · have lost := (keeps _ List.prefix_rfl).1
    cases lost
  · unfold NeverReopens
    decide

end Traffic

end RunBoard.Jobs
